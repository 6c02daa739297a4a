import DocStore.Proofs.Url.Written

/-! # The characters of hosts

The written form of a host that was read has none of the characters that end an authority: a
domain name must not contain them, what it is encoded with are letters, digits and hyphens, and
addresses are digits between points, colons and brackets.
-/

namespace DocStore.Url

theorem IsAuthorityChar.ofSpecial {c : Char} (inAuthority : IsAuthorityChar true c)
    (special : Bool) : IsAuthorityChar special c := by
  cases special with
  | true => exact inAuthority
  | false =>
      obtain ⟨visible, noSlash, noEnd⟩ := inAuthority
      rw [isSlash, Bool.or_eq_false_iff] at noSlash
      refine ⟨visible, ?_, noEnd⟩
      rw [isSlash, noSlash.1]
      rfl

/-! ## Domain names -/

/-- A text that a domain name may contain. -/
def IsDomainText (text : List Char) : Prop :=
  ∀ c ∈ text, isForbiddenInDomain c = false

theorem isAuthorityChar_of_domain {c : Char} (allowed : isForbiddenInDomain c = false) :
    IsAuthorityChar true c := by
  simp only [isForbiddenInDomain, Bool.or_eq_false_iff, decide_eq_false_iff_not] at allowed
  obtain ⟨⟨visible, -⟩, unlisted⟩ := allowed
  simp at unlisted
  refine ⟨by omega, ?_, ?_⟩
  · simp [isSlash, unlisted]
  · simp [endsPath, unlisted]

namespace Punycode

theorem threshold_le (position bias : Nat) : threshold position bias ≤ 26 :=
  Nat.max_le.mpr ⟨by decide, Nat.min_le_left _ _⟩

theorem digitChar_allowed {digit : Nat} (small : digit < 36) :
    isForbiddenInDomain (digitChar digit) = false := by
  decide +revert

theorem isDomainText_numberDigits (bias position n : Nat) :
    IsDomainText (numberDigits bias position n) := by
  fun_induction numberDigits bias position n with
  | case1 position n t last =>
      have limit : t ≤ 26 := threshold_le position bias
      exact List.forall_mem_singleton.mpr (digitChar_allowed (by omega))
  | case2 position n t _ ih =>
      have limit : t ≤ 26 := threshold_le position bias
      have digit : t + (n - t) % (36 - t) < 36 := by
        have := Nat.mod_lt (n - t) (show 0 < 36 - t by omega)
        omega
      exact List.forall_mem_cons.mpr ⟨digitChar_allowed digit, ih⟩

theorem isDomainText_pass {progress : Progress} (allowed : IsDomainText progress.output)
    (basic target : Nat) (c : Char) : IsDomainText (pass basic target progress c).output := by
  unfold pass
  split
  · exact allowed
  · split
    · exact List.forall_mem_append.mpr ⟨allowed, isDomainText_numberDigits _ _ _⟩
    · exact allowed

theorem isDomainText_foldl_pass {progress : Progress} (allowed : IsDomainText progress.output)
    (basic target : Nat) (label : List Char) :
    IsDomainText (label.foldl (pass basic target) progress).output := by
  induction label generalizing progress with
  | nil => exact allowed
  | cons c rest ih => exact ih (isDomainText_pass allowed basic target c)

theorem isDomainText_writeTargets {progress : Progress} (allowed : IsDomainText progress.output)
    (label : List Char) (basic : Nat) (targets : List Nat) (next : Nat) :
    IsDomainText (writeTargets label basic targets next progress).output := by
  induction targets generalizing next progress with
  | nil => exact allowed
  | cons target rest ih =>
      let started : Progress :=
        { progress with delta := progress.delta + (target - next) * (progress.written + 1) }
      have startsAllowed : IsDomainText started.output := allowed
      rw [writeTargets]
      refine ih ?_ _
      exact isDomainText_foldl_pass startsAllowed basic target label

theorem isDomainText_encode {label : List Char} (allowed : IsDomainText label) :
    IsDomainText (encode label) := by
  have hyphen {basic : List Char} :
      IsDomainText (if basic.isEmpty then [] else ['-']) := by
    split
    · exact List.forall_mem_nil _
    · exact List.forall_mem_singleton.mpr (by decide)
  refine List.forall_mem_append.mpr ⟨List.forall_mem_append.mpr ⟨?_, hyphen⟩, ?_⟩
  · exact fun c mem => allowed c (List.mem_of_mem_filter mem)
  · have startsAllowed (written : Nat) : IsDomainText (Progress.mk [] 0 72 written).output :=
      List.forall_mem_nil _
    exact isDomainText_writeTargets (startsAllowed _) _ _ _ _

end Punycode

theorem isDomainText_readLabel? {label decoded : List Char} (allowed : IsDomainText label)
    (read : readLabel? label = some decoded) : IsDomainText decoded := by
  unfold readLabel? at read
  split at read
  next encoded =>
    split at read
    next =>
      obtain ⟨text, -, checked⟩ := Option.bind_eq_some_iff.mp read
      dsimp only at checked
      split at checked
      next fits =>
        cases checked
        intro c mem
        have noneForbidden := ((Bool.and_eq_true _ _).mp fits).2
        rw [Bool.not_eq_true', List.any_eq_false] at noneForbidden
        have fine := noneForbidden c mem
        rw [Bool.or_eq_true, not_or] at fine
        exact eq_false_of_ne_true fine.2
      next => cases checked
    next => cases read
  next =>
    cases read
    exact allowed

theorem isDomainText_encodeLabel {label : List Char} (allowed : IsDomainText label) :
    IsDomainText (encodeLabel label) := by
  unfold encodeLabel
  split
  · exact allowed
  · refine List.forall_mem_append.mpr ⟨fun c mem => ?_, Punycode.isDomainText_encode allowed⟩
    simp only [List.mem_cons, List.not_mem_nil, or_false] at mem
    obtain rfl | rfl | rfl | rfl := mem <;> rfl

theorem exists_source_of_mapM {α β : Type} {read : α → Option β} {items : List α}
    {results : List β} (mapped : items.mapM read = some results) {result : β}
    (mem : result ∈ results) : ∃ item ∈ items, read item = some result := by
  induction items generalizing results with
  | nil =>
      cases mapped
      cases mem
  | cons item rest ih =>
      rw [List.mapM_cons] at mapped
      obtain ⟨first, found, mapped⟩ := Option.bind_eq_some_iff.mp mapped
      obtain ⟨others, foundRest, same⟩ := Option.bind_eq_some_iff.mp mapped
      cases same
      obtain rfl | later := List.mem_cons.mp mem
      · exact ⟨item, List.mem_cons_self, found⟩
      · obtain ⟨source, inRest, read⟩ := ih foundRest later
        exact ⟨source, List.mem_cons_of_mem _ inRest, read⟩

theorem mem_intercalate {separator c : Char} {parts : List (List Char)} :
    c ∈ [separator].intercalate parts → c = separator ∨ ∃ part ∈ parts, c ∈ part := by
  induction parts with
  | nil => exact fun mem => nomatch mem
  | cons first rest ih =>
      cases rest with
      | nil =>
          rw [List.intercalate_singleton]
          exact fun mem => .inr ⟨first, List.mem_cons_self, mem⟩
      | cons second others =>
          intro mem
          rw [List.intercalate_cons_cons, List.mem_append, List.mem_append, List.mem_singleton]
            at mem
          obtain (inFirst | between) | later := mem
          · exact .inr ⟨first, List.mem_cons_self, inFirst⟩
          · exact .inl between
          · obtain same | ⟨part, inRest, inPart⟩ := ih later
            · exact .inl same
            · exact .inr ⟨part, List.mem_cons_of_mem _ inRest, inPart⟩

theorem mem_intercalate_of_mem {separator c : Char} {parts : List (List Char)} {part : List Char}
    (inParts : part ∈ parts) (mem : c ∈ part) : c ∈ [separator].intercalate parts := by
  induction parts with
  | nil => cases inParts
  | cons first rest ih =>
      cases rest with
      | nil =>
          cases List.mem_singleton.mp inParts
          rwa [List.intercalate_singleton]
      | cons second others =>
          rw [List.intercalate_cons_cons, List.mem_append, List.mem_append]
          obtain rfl | inRest := List.mem_cons.mp inParts
          · exact .inl (.inl mem)
          · exact .inr (ih inRest)

theorem mem_of_mem_splitChars {separator c : Char} {text part : List Char}
    (found : part ∈ splitChars separator text) (mem : c ∈ part) : c ∈ text := by
  rw [← intercalate_splitChars separator text]
  exact mem_intercalate_of_mem found mem

theorem isDomainText_domainToAscii? {name ascii : List Char}
    (converted : domainToAscii? name = some ascii) : IsDomainText ascii := by
  unfold domainToAscii? at converted
  obtain ⟨codes, -, converted⟩ := Option.bind_eq_some_iff.mp converted
  obtain ⟨labels, read, converted⟩ := Option.bind_eq_some_iff.mp converted
  dsimp only at converted
  split at converted
  next fits =>
    cases converted
    rw [Bool.and_eq_true, Bool.and_eq_true, Bool.not_eq_true', List.any_eq_false] at fits
    have mapped : IsDomainText (codes.map Char.ofNat) :=
      fun c mem => eq_false_of_ne_true (fits.1.1 c mem)
    intro c mem
    obtain rfl | ⟨part, written, inPart⟩ := mem_intercalate mem
    · decide
    · obtain ⟨label, inLabels, rfl⟩ := List.mem_map.mp written
      obtain ⟨source, inSplit, decoded⟩ := exists_source_of_mapM read inLabels
      have allowed : IsDomainText source :=
        fun c inSource => mapped c (mem_of_mem_splitChars inSplit inSource)
      exact isDomainText_encodeLabel (isDomainText_readLabel? allowed decoded) c inPart
  next => cases converted

/-! ## Addresses -/

theorem exists_digit_of_mem_toDigits {base n : Nat} (large : 1 < base) {c : Char}
    (mem : c ∈ Nat.toDigits base n) : ∃ digit < base, c = digit.digitChar := by
  induction n using Nat.strongRecOn with
  | ind n ih =>
      by_cases small : n < base
      · rw [Nat.toDigits_of_lt_base small] at mem
        exact ⟨n, small, List.mem_singleton.mp mem⟩
      · rw [Nat.toDigits_of_base_le large (Nat.le_of_not_lt small), List.mem_append] at mem
        obtain earlier | last := mem
        · exact ih _ (Nat.div_lt_self (by omega) large) earlier
        · exact ⟨n % base, Nat.mod_lt _ (by omega), List.mem_singleton.mp last⟩

theorem isAuthorityChar_of_mem_toDigits {base n : Nat} (large : 1 < base) (limit : base ≤ 16)
    {c : Char} (mem : c ∈ Nat.toDigits base n) : IsAuthorityChar true c := by
  obtain ⟨digit, small, rfl⟩ := exists_digit_of_mem_toDigits large mem
  have digits : ∀ digit < 16, IsAuthorityChar true (Nat.digitChar digit) := by decide
  exact digits digit (by omega)

namespace Host

theorem isAuthorityChar_piecesText {pieces : List Nat} {c : Char} (mem : c ∈ piecesText pieces) :
    IsAuthorityChar true c := by
  obtain rfl | ⟨part, written, inPart⟩ := mem_intercalate mem
  · decide
  · obtain ⟨piece, -, rfl⟩ := List.mem_map.mp written
    exact isAuthorityChar_of_mem_toDigits (by decide) (by decide) inPart

theorem isAuthorityChar_ipv6Text {pieces : List Nat} {c : Char} (mem : c ∈ ipv6Text pieces) :
    IsAuthorityChar true c := by
  unfold ipv6Text at mem
  split at mem
  next => exact isAuthorityChar_piecesText mem
  next =>
    rw [List.mem_append, List.mem_append] at mem
    obtain (before | gap) | behind := mem
    · exact isAuthorityChar_piecesText before
    · simp only [List.mem_cons, List.not_mem_nil, or_false, or_self] at gap
      subst gap
      decide
    · exact isAuthorityChar_piecesText behind

/-- Addresses have digits, points, colons and brackets. -/
theorem isAuthorityChar_ipv4 {address : Nat} {c : Char} (mem : c ∈ (ipv4 address).text) :
    IsAuthorityChar true c := by
  obtain rfl | ⟨part, written, inPart⟩ := mem_intercalate mem
  · decide
  · obtain ⟨byte, -, rfl⟩ := List.mem_map.mp written
    exact isAuthorityChar_of_mem_toDigits (by decide) (by decide) inPart

theorem isAuthorityChar_ipv6 {pieces : List Nat} {c : Char} (mem : c ∈ (ipv6 pieces).text) :
    IsAuthorityChar true c := by
  obtain rfl | mem := List.mem_cons.mp mem
  · decide
  · obtain inside | last := List.mem_append.mp mem
    · exact isAuthorityChar_ipv6Text inside
    · cases List.mem_singleton.mp last
      decide

theorem isAuthorityChar_bracketed {text : List Char} {host : Host}
    (bracketed : bracketed? text = some (.ok host)) :
    (∀ c ∈ host.text, IsAuthorityChar true c) ∧ host.text ≠ [] := by
  unfold bracketed? at bracketed
  split at bracketed
  next =>
    split at bracketed
    next =>
      cases bracketed
      exact ⟨fun c => isAuthorityChar_ipv6, nofun⟩
    next => cases bracketed
  next => cases bracketed

/-- The host of a special scheme can be written between an authority's other parts, and there is
    something to write. -/
theorem isAuthorityChar_of_parse {text : List Char} {host : Host} (parsed : parse text = .ok host) :
    (∀ c ∈ host.text, IsAuthorityChar true c) ∧ host.text ≠ [] := by
  unfold parse at parsed
  split at parsed
  next result bracketed =>
    subst parsed
    exact isAuthorityChar_bracketed bracketed
  next =>
    split at parsed
    next => cases parsed
    next name converted =>
      split at parsed
      next => cases parsed
      next filled =>
        split at parsed
        next =>
          split at parsed
          next =>
            cases parsed
            exact ⟨fun c => isAuthorityChar_ipv4, by simp [Host.text, List.intercalate]⟩
          next => cases parsed
        next =>
          cases parsed
          obtain ⟨decoded, -, converted⟩ := Option.bind_eq_some_iff.mp converted
          have allowed := isDomainText_domainToAscii? converted
          rw [Host.text, String.toList_ofList]
          exact ⟨fun c mem => isAuthorityChar_of_domain (allowed c mem),
            fun empty => filled (by rw [empty]; rfl)⟩

/-- So can the host of any other scheme. -/
theorem isAuthorityChar_of_parseOther {text : List Char} {host : Host}
    (parsed : parseOther text = .ok host) : ∀ c ∈ host.text, IsAuthorityChar true c := by
  unfold parseOther at parsed
  split at parsed
  next result bracketed =>
    subst parsed
    exact (isAuthorityChar_bracketed bracketed).1
  next =>
    split at parsed
    next => cases parsed
    next allowed =>
      cases parsed
      intro c mem
      rw [Host.text, String.toList_ofList] at mem
      obtain ⟨inText, plain⟩ | rfl | ⟨n, small, rfl⟩ := mem_escape mem
      · rw [Bool.not_eq_true, List.any_eq_false] at allowed
        have unlisted := allowed c inText
        simp [isForbidden] at unlisted
        refine ⟨visible_of_controlSet plain (by simp [unlisted]), ?_, ?_⟩
        · simp [isSlash, unlisted]
        · simp [endsPath, unlisted]
      · decide
      · have digits : ∀ n < 16, IsAuthorityChar true (upperHexDigit n) := by decide
        exact digits n small

end Host

end DocStore.Url
