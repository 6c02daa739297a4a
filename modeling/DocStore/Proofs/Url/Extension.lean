import DocStore.Client
import DocStore.Proofs.Endpoint
import DocStore.Proofs.Request
import DocStore.Proofs.Url.Append
import DocStore.Proofs.Url.Reading

/-! # How far a reference reaches

The texts of a reference come into no part of a URL but its path, whatever characters they have:
not when they are appended, and not when the text of the URL is read again.
-/

namespace DocStore

namespace Url

/-- A URL that a client may have for its base: one that was read, also with the scheme for
    listening. -/
inductive IsBase : Url → Prop where
  | read {text : String} {url : Url} (parsed : parse text = .ok url) : IsBase url
  | realtime {url : Url} {scheme : String} (base : IsBase url)
      (goes : ClientSettings.realtimeScheme? url.scheme = some scheme) :
      IsBase { url with scheme := scheme }

/-- Both of a scheme and the one for listening are special, so that URLs are read alike. -/
theorem special_of_realtimeScheme? {old new : String}
    (goes : ClientSettings.realtimeScheme? old = some new) :
    isSpecialScheme old = true ∧ isSpecialScheme new = true ∧ old ≠ "file" ∧
      IsWrittenScheme new := by
  have isSecure : IsWrittenScheme "wss" := .of_all rfl rfl
  have isPlain : IsWrittenScheme "ws" := .of_all rfl rfl
  unfold ClientSettings.realtimeScheme? at goes
  split at goes
  · cases goes
    exact ⟨rfl, rfl, by decide, isSecure⟩
  · cases goes
    exact ⟨rfl, rfl, by decide, isSecure⟩
  · cases goes
    exact ⟨rfl, rfl, by decide, isPlain⟩
  · cases goes
    exact ⟨rfl, rfl, by decide, isPlain⟩
  · cases goes

theorem IsWritten.withScheme {url : Url} (written : url.IsWritten) {scheme : String}
    (isScheme : IsWrittenScheme scheme) (special : isSpecialScheme scheme = url.isSpecial)
    (notFile : url.scheme ≠ "file") : IsWritten { url with scheme := scheme } := by
  have same : isSpecial { url with scheme := scheme } = url.isSpecial := special
  constructor
  · exact isScheme
  · rw [same]
    exact written.authority
  · rw [same]
    intro isSpecial
    obtain ⟨authority, present, filled⟩ := written.hosted isSpecial
    exact ⟨authority, present, fun _ => filled notFile⟩
  · rw [same]
    exact written.stable
  · rw [same]
    exact written.filled
  · rw [same]
    exact written.query
  · exact written.fragment

theorem IsBase.isWritten {base : Url} (isBase : base.IsBase) : base.IsWritten := by
  induction isBase with
  | read parsed => exact isWritten_of_parse parsed
  | realtime _ goes ih =>
      obtain ⟨oldSpecial, newSpecial, notFile, isScheme⟩ := special_of_realtimeScheme? goes
      exact ih.withScheme isScheme (newSpecial.trans oldSpecial.symm) notFile

/-- All parts of a URL but its path: the scheme, the authority with its user, host and port, the
    query and the fragment. -/
def withoutPath (url : Url) : Url :=
  { url with path := .segments [] }

/-- A URL that has texts behind the path of another one and is else the same. -/
structure Extends (base : Url) (texts : List String) (url : Url) : Prop where
  /-- Every other part is kept. -/
  outside : url.withoutPath = base.withoutPath
  /-- A text is read back from a part as a whole, so it has neither been split nor does it have an
      escape of its own. -/
  parts : ∀ part ∈ url.path.parts, part ∈ base.path.parts ∨ part = [] ∨
    ∃ text ∈ texts, unescape part = bytesOf (text.toList.filter fun c => !isIgnored c)
  /-- Each text makes one part at most. -/
  length : url.path.parts.length ≤ base.path.parts.length + texts.length
  /-- Nothing in the path ends it or would be taken for a slash. -/
  unmarked : ∀ c ∈ url.path.chars, endsPath c = false ∧ (base.isSpecial = true → c ≠ '\\')
  /-- The text is read as that of the base, but for the path. A file's path may say by a drive that
      it has no host. -/
  reread : base.scheme ≠ "file" →
    parse url.text = (parse base.text).map fun read => { read with path := url.path }

theorem eq_of_withoutPath {first second : Url} (same : first.withoutPath = second.withoutPath) :
    first = { second with path := first.path } := by
  obtain ⟨scheme, authority, path, query, fragment⟩ := first
  obtain ⟨scheme', authority', path', query', fragment'⟩ := second
  simp only [withoutPath, Url.mk.injEq, true_and] at same
  obtain ⟨rfl, rfl, rfl, rfl⟩ := same
  rfl

variable {base url : Url} {names : List String}

/-- The text of a URL with another path is read as that of the URL, but for the path. -/
theorem IsWritten.parse_text_withPath (written : base.IsWritten)
    (segmented : base.path = .segments names) (notFile : base.scheme ≠ "file")
    {others : List String} (stable : ∀ name ∈ others, IsStableName base.isSpecial name)
    (filled : others ≠ []) :
    parse (text { base with path := .segments others }) =
      (parse base.text).map fun read => { read with path := .segments others } := by
  rw [written.parse_text segmented notFile,
    (written.withNames stable filled).parse_text rfl notFile, rereadAuthority, rereadAuthority]
  cases base.authority with
  | none => rfl
  | some authority =>
      dsimp only
      cases readAuthority base.scheme authority.chars <;> rfl

/-- Texts that are appended to a path leave all else of the URL as it is. -/
theorem IsWritten.extends_of_foldl (written : base.IsWritten)
    (segmented : base.path = .segments names) {texts : List String}
    (filled : texts.foldl (pushSegment base.isSpecial) (popIfEmpty names) ≠ []) :
    base.Extends texts { base with
      path := .segments (texts.foldl (pushSegment base.isSpecial) (popIfEmpty names)) } := by
  have stable := written.stable names segmented
  have popped : ∀ name ∈ popIfEmpty names, IsStableName base.isSpecial name :=
    fun name mem => stable name (popIfEmpty_subset names mem)
  have pushed := stable_foldl_pushSegment popped texts
  have baseParts : base.path.parts = names.map String.toList := by
    rw [segmented, parts_of_stable stable]
  constructor
  · rfl
  · intro part mem
    rw [parts_of_stable pushed] at mem
    rw [baseParts]
    obtain ⟨name, inPath, rfl⟩ := List.mem_map.mp mem
    obtain old | rfl | new := mem_foldl_pushSegment inPath
    · exact .inl (List.mem_map.mpr ⟨name, popIfEmpty_subset names old, rfl⟩)
    · exact .inr (.inl rfl)
    · exact .inr (.inr new)
  · rw [parts_of_stable pushed, baseParts, List.length_map, List.length_map]
    have limit := length_foldl_pushSegment_le base.isSpecial (popIfEmpty names) texts
    have short := length_popIfEmpty_le names
    omega
  · intro c mem
    refine ⟨not_endsPath_of_stable pushed mem, ?_⟩
    rintro special rfl
    obtain impossible | ⟨name, inPath, inName⟩ := mem_segments_chars mem
    · cases impossible
    · have noSlash := ((pushed name inPath).chars _ inName).2
      rw [special] at noSlash
      cases noSlash
  · exact fun notFile => written.parse_text_withPath segmented notFile pushed filled

theorem IsWritten.extends_of_endpoint (written : base.IsWritten)
    (segmented : base.path = .segments names) {service : String} {reference : Reference}
    (noDots : service ≠ "." ∧ service ≠ "..")
    (reached : base.endpoint service reference = .ok url) :
    base.Extends (service :: reference.texts) url := by
  rw [endpoint, append?, segmented] at reached
  cases reached
  exact written.extends_of_foldl segmented
    (foldl_pushSegment_ne_nil (pushSegment_ne_nil (.inr noDots)) reference.texts)

/-- Two references are reached under one base URL, and differ in the path at most. -/
theorem IsWritten.endpoints_extend (written : base.IsWritten)
    (segmented : base.path = .segments names) {service : String}
    (noDots : service ≠ "." ∧ service ≠ "..") (first second : Reference) :
    ∃ firstUrl secondUrl, base.endpoint service first = .ok firstUrl ∧
      base.endpoint service second = .ok secondUrl ∧
      firstUrl.withoutPath = secondUrl.withoutPath ∧
      base.Extends (service :: first.texts) firstUrl ∧
      base.Extends (service :: second.texts) secondUrl := by
  obtain ⟨firstUrl, firstReached⟩ := exists_endpoint segmented service first
  obtain ⟨secondUrl, secondReached⟩ := exists_endpoint segmented service second
  have firstExtends := written.extends_of_endpoint segmented noDots firstReached
  have secondExtends := written.extends_of_endpoint segmented noDots secondReached
  exact ⟨firstUrl, secondUrl, firstReached, secondReached,
    firstExtends.outside.trans secondExtends.outside.symm, firstExtends, secondExtends⟩

/-- The URL for listening is an endpoint behind the base URL that has the listener's query. -/
theorem listening_eq_endpoint (segmented : base.path = .segments names) (reference : Reference)
    (initialFullResult : Bool) (projectName : Option String) (willQuery : Bool) :
    base.listening reference initialFullResult projectName willQuery =
      (base.withPairs (listenPairs initialFullResult projectName willQuery)).endpoint
        listenSegment reference := by
  simp only [listening, endpoint, append?, withPairs, segmented]
  rfl

/-- Two references under one base URL. Where they are read and written differs from the base URL
    in nothing but the path, and where they are listened to differs in nothing but the path either,
    once the base URL has the listener's query. Each of their texts stays within one part of the
    path. -/
theorem references_reach_path_only (isBase : base.IsBase) (segmented : base.path = .segments names)
    (initialFullResult : Bool) (projectName : Option String) (willQuery : Bool)
    (first second : Reference) :
    (∃ firstUrl secondUrl, base.resource first = .ok firstUrl ∧
      base.resource second = .ok secondUrl ∧ firstUrl.withoutPath = secondUrl.withoutPath ∧
      base.Extends (resourceSegment :: first.texts) firstUrl ∧
      base.Extends (resourceSegment :: second.texts) secondUrl) ∧
    let listened := base.withPairs (listenPairs initialFullResult projectName willQuery)
    ∃ firstUrl secondUrl,
      base.listening first initialFullResult projectName willQuery = .ok firstUrl ∧
      base.listening second initialFullResult projectName willQuery = .ok secondUrl ∧
      firstUrl.withoutPath = secondUrl.withoutPath ∧
      listened.Extends (listenSegment :: first.texts) firstUrl ∧
      listened.Extends (listenSegment :: second.texts) secondUrl := by
  have written := isBase.isWritten
  constructor
  · exact written.endpoints_extend segmented (by decide) first second
  · simp only [listening_eq_endpoint segmented]
    exact (written.withPairs _).endpoints_extend segmented (by decide) first second

/-- Characters that would begin a query, a fragment, another segment, a user's end or an escape. -/
theorem references_reach_path_only_reserved :
    parse "http://[::1]/api/" = .ok loopback ∧ loopback.path = .segments ["api", ""] ∧
      ∃ firstUrl secondUrl,
        loopback.resource (.document ⟨["a?b#c", "%2E"], ""⟩) = .ok firstUrl ∧
        loopback.resource (.collection ⟨["@x:1/../\\&=+"], ".\t."⟩) = .ok secondUrl ∧
        firstUrl.text = "http://[::1]/api/databases//a%3Fb%23c/%252E" ∧
        secondUrl.text = "http://[::1]/api//@x:1%2F..%2F%5C&=+" ∧
        firstUrl.withoutPath = secondUrl.withoutPath ∧
        parse firstUrl.text = .ok firstUrl ∧ parse secondUrl.text = .ok secondUrl := by
  have parsed : parse "http://[::1]/api/" = .ok loopback := rfl
  obtain ⟨⟨firstUrl, secondUrl, firstFound, secondFound, alike, firstExtends, secondExtends⟩, -⟩ :=
    references_reach_path_only (.read parsed) rfl false none false
      (.document ⟨["a?b#c", "%2E"], ""⟩) (.collection ⟨["@x:1/../\\&=+"], ".\t."⟩)
  have reread {url : Url} {texts : List String} (extend : loopback.Extends texts url) :
      parse url.text = .ok url := by
    rw [extend.reread (by decide), eq_of_withoutPath extend.outside]
    rfl
  refine ⟨parsed, rfl, firstUrl, secondUrl, firstFound, secondFound, ?_, ?_, alike,
    reread firstExtends, reread secondExtends⟩
  · cases firstFound
    rfl
  · cases secondFound
    rfl

end Url

end DocStore
