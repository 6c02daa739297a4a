import DocStore.Proofs.Subscription.Cancellation

/-! # The tokens of connection attempts

A step of an engine reads a token just when it starts an attempt, and the attempt uses this token
and no other.
-/

namespace DocStore

def Effect.readsToken : Effect → Bool
  | .readToken => true
  | .enter _ | .connect _ _ | .send _ | .closeConnection | .deliver _ | .sleep _ | .report _ =>
      false

def readingsOf (effects : List Effect) : Nat :=
  effects.countP Effect.readsToken

namespace Engine

/-- What effects have to do with a token that could be read. -/
inductive TokenUse (listener : Listener) (token : Option String) (effects : List Effect) :
    Prop where
  | unread (readings : readingsOf effects = 0) (unstarted : .connecting ∉ statesOf effects)
      (attempts : attemptsOf effects = []) : TokenUse listener token effects
  | connected {url : Url} (found : listener.url token = .ok url)
      (readings : readingsOf effects = 1) (started : .connecting ∈ statesOf effects)
      (attempts : attemptsOf effects = [(url, token)]) : TokenUse listener token effects
  | unaddressed {error : Error} (failed : listener.url token = .error error)
      (readings : readingsOf effects = 1) (started : .connecting ∈ statesOf effects)
      (attempts : attemptsOf effects = []) : TokenUse listener token effects

variable {listener : Listener} {token : Option String}

theorem tokenUse_attempt (engine : Engine) (listener : Listener) (token : Option String) :
    TokenUse listener token (engine.attempt listener token).2 := by
  unfold attempt
  split
  next => exact .unread rfl (by simp [finish]) rfl
  next =>
      split
      next url found => exact .connected found rfl (by simp) rfl
      next error failed =>
          dsimp only [fail, deliver]
          split
          next => exact .unaddressed failed rfl (by simp) rfl
          next => exact .unaddressed failed rfl (by simp) rfl

theorem tokenUse_lose (engine : Engine) (listener : Listener) (token : Option String)
    (reason : String) : TokenUse listener token (engine.lose listener reason).2 := by
  unfold lose
  split
  next =>
      dsimp only [fail, deliver]
      split
      next => exact .unread rfl (by simp [finish]) rfl
      next => exact .unread rfl (by simp [finish]) rfl
  next =>
      split
      next => exact .unread rfl (by simp) rfl
      next => exact .unread rfl (by simp [finish]) rfl

theorem tokenUse_handFrame (engine : Engine) (listener : Listener) (token : Option String)
    (text : String) : TokenUse listener token (engine.handFrame listener text).2 := by
  have hands := handFrame_handing listener engine text
  generalize engine.handFrame listener text = handed at hands ⊢
  cases hands <;> exact .unread rfl (by simp) rfl

/-- A step reads no token, or one, which is then the token of an attempt. -/
theorem tokenUse_step (engine : Engine) (listener : Listener) (token : Option String)
    (signal : Signal) : TokenUse listener token (engine.step listener token signal).2 := by
  have reacts := step_reaction listener token engine signal
  generalize engine.step listener token signal = stepped at reacts ⊢
  cases reacts with
  | begun | elapsed => exact tokenUse_attempt engine listener token
  | refused | abandoned | lost => exact tokenUse_lose engine listener token _
  | framed => exact tokenUse_handFrame engine listener token _
  | configuring | unconfigured | sent | sendFailed | completed | left | cancelled | leaving
  | unheard => exact .unread rfl (by simp [finish]) rfl

/-- The attempts of a run use the URLs that go with their tokens. -/
theorem url_of_mem_attemptsOf_run {engine : Engine} {moves : List Move} {url : Url}
    (made : (url, token) ∈ attemptsOf (engine.run listener moves).2) :
    listener.url token = .ok url := by
  induction moves generalizing engine with
  | nil => cases made
  | cons first rest ih =>
      rw [run, attemptsOf_append, List.mem_append] at made
      obtain now | later := made
      · cases first with
        | signal given signal =>
            rw [Engine.move] at now
            cases tokenUse_step engine listener given signal with
            | unread _ _ attempts | unaddressed _ _ _ attempts => rw [attempts] at now; cases now
            | connected found _ _ attempts =>
                rw [attempts, List.mem_singleton] at now
                cases now
                exact found
        | stop | drop => cases now
      · exact ih later

end Engine

end DocStore
