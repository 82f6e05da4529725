import NodeGroups.Proofs.Text.Blank
import NodeGroups.Settings

set_option autoImplicit false

namespace NodeGroups.Settings

/-- A text that starts as the URL of something on the web. -/
def OnWeb (text : String) : Prop :=
  "http://".toList <+: text.toList ∨ "https://".toList <+: text.toList

theorem hasWebScheme_iff {text : String} : hasWebScheme text.toList = true ↔ OnWeb text := by
  rw [hasWebScheme, Bool.or_eq_true, List.isPrefixOf_iff_prefix, List.isPrefixOf_iff_prefix, OnWeb]

/-- Settings that can be used: the base is on the web, and there is some time. -/
structure Valid (s : Settings) : Prop where
  base : OnWeb (Text.trim s.baseUrl)
  time : s.timeoutMs ≠ 0

variable {s : Settings}

theorem validate_of_not_onWeb (base : ¬ OnWeb (Text.trim s.baseUrl)) :
    s.validate = .error (.configuration
      ("base_url must be an http(s) URL: " ++ Text.trim s.baseUrl)) := by
  have scheme : hasWebScheme (Text.trim s.baseUrl).toList = false :=
    Bool.eq_false_iff.mpr (mt hasWebScheme_iff.mp base)
  rw [validate, scheme]
  rfl

theorem validate_of_onWeb (base : OnWeb (Text.trim s.baseUrl)) :
    s.validate = if s.timeoutMs = 0 then
      .error (.configuration "timeout_ms must be greater than zero") else .ok () := by
  rw [validate, hasWebScheme_iff.mpr base]
  rfl

theorem validate_eq_ok : s.validate = .ok () ↔ s.Valid := by
  by_cases base : OnWeb (Text.trim s.baseUrl)
  · rw [validate_of_onWeb base]
    by_cases time : s.timeoutMs = 0
    · rw [if_pos time]
      exact iff_of_false nofun fun valid => valid.time time
    · rw [if_neg time]
      exact iff_of_true rfl ⟨base, time⟩
  · rw [validate_of_not_onWeb base]
    exact iff_of_false nofun fun valid => base valid.base

def slashes (n : Nat) : String := String.ofList (List.replicate n '/')

/-- A text is another with slashes behind it. -/
def EndsWithSlashes (text stem : String) : Prop := ∃ n, text = stem ++ slashes n

/-- A text is another with slashes before it. -/
def StartsWithSlashes (text part : String) : Prop := ∃ n, text = slashes n ++ part

variable {text stem part : String}

/-- A text without the slashes at its end. -/
def stemOf (text : String) : String :=
  String.ofList (Text.dropEndWhile (· == '/') text.toList)

/-- A text without the slashes at its start. -/
def partOf (text : String) : String :=
  String.ofList (text.toList.dropWhile (· == '/'))

theorem url_eq (s : Settings) (path : String) :
    s.url path = stemOf (Text.trim s.baseUrl) ++ "/" ++ partOf path := by
  rw [url, baseChars, ← Text.toList_trim, ← String.toList_inj]
  simp [stemOf, partOf]

theorem beq_of_mem_slashes {n : Nat} : ∀ c ∈ (slashes n).toList, (c == '/') = true := by
  intro c member
  rw [slashes, String.toList_ofList] at member
  exact beq_iff_eq.mpr (List.eq_of_mem_replicate member)

theorem EndsWithSlashes.stemOf_eq (ends : EndsWithSlashes text stem) :
    stemOf text = stemOf stem := by
  obtain ⟨n, rfl⟩ := ends
  rw [stemOf, String.toList_append, Text.dropEndWhile_append_of_forall _ beq_of_mem_slashes, stemOf]

theorem StartsWithSlashes.partOf_eq (starts : StartsWithSlashes text part) :
    partOf text = partOf part := by
  obtain ⟨n, rfl⟩ := starts
  rw [partOf, String.toList_append, List.dropWhile_append_of_pos beq_of_mem_slashes, partOf]

/-- Behind the scheme of a text stands something other than slashes. -/
def HasHost (text : String) : Prop :=
  ∃ scheme rest, (scheme = "http://" ∨ scheme = "https://") ∧ text = scheme ++ rest ∧
    ∃ c ∈ rest.toList, c ≠ '/'

theorem onWeb_stemOf_of_hasHost (host : HasHost text) : OnWeb (stemOf text) := by
  obtain ⟨scheme, rest, known, rfl, c, member, other⟩ := host
  have stop : ∃ c ∈ rest.toList, (c == '/') = false := ⟨c, member, by simpa using other⟩
  have kept : (stemOf (scheme ++ rest)).toList =
      scheme.toList ++ Text.dropEndWhile (· == '/') rest.toList := by
    rw [stemOf, String.toList_ofList, String.toList_append,
      Text.dropEndWhile_append_of_exists scheme.toList stop]
  rw [OnWeb, kept]
  rcases known with rfl | rfl
  · exact .inl (List.prefix_append _ _)
  · exact .inr (List.prefix_append _ _)

/-- Of a text that is nothing but a scheme and slashes, the slashes of the scheme go too. -/
theorem stemOf_of_not_hasHost (web : OnWeb text) (hostless : ¬ HasHost text) :
    stemOf text = "http:" ∨ stemOf text = "https:" := by
  have bare {scheme : String} (known : scheme = "http://" ∨ scheme = "https://")
      (starts : scheme.toList <+: text.toList) : stemOf text = stemOf scheme := by
    obtain ⟨rest, whole⟩ := starts
    have run : ∀ c ∈ rest, (c == '/') = true := by
      intro c member
      by_contra other
      refine hostless ⟨scheme, String.ofList rest, known, ?_, c, ?_, by simpa using other⟩
      · rw [← String.toList_inj, String.toList_append, String.toList_ofList, whole]
      · rwa [String.toList_ofList]
    rw [stemOf, ← whole, Text.dropEndWhile_append_of_forall _ run, stemOf]
  rcases web with starts | starts
  · exact .inl (bare (.inl rfl) starts)
  · exact .inr (bare (.inr rfl) starts)

theorem OnWeb.append (web : OnWeb text) (more : String) : OnWeb (text ++ more) := by
  rw [OnWeb, String.toList_append]
  rcases web with starts | starts
  · exact .inl (starts.trans (List.prefix_append _ _))
  · exact .inr (starts.trans (List.prefix_append _ _))

/-- A scheme with one slash is not on the web. -/
theorem not_onWeb_of_schemeless (bare : part.toList.head? ≠ some '/')
    (scheme : stem = "http:" ∨ stem = "https:") : ¬ OnWeb (stem ++ "/" ++ part) := by
  rw [OnWeb, String.toList_append, String.toList_append]
  cases chars : part.toList with
  | nil => rcases scheme with rfl | rfl <;> decide
  | cons c cs =>
    rw [chars] at bare
    have other : c ≠ '/' := by simpa using bare
    rcases scheme with rfl | rfl <;> simp [List.cons_prefix_cons, other.symm]

/-- `stem` and `part` are what a base and a path are without the slashes where they are joined. -/
structure Joined (base path stem part : String) : Prop where
  base : EndsWithSlashes base stem
  path : StartsWithSlashes path part
  stem : stem.toList.getLast? ≠ some '/'
  part : part.toList.head? ≠ some '/'

theorem joined_stemOf_partOf (base path : String) :
    Joined base path (stemOf base) (partOf path) := by
  obtain ⟨⟨n, ends⟩, stem⟩ := Text.exists_eq_dropEndWhile_append '/' base.toList
  obtain ⟨⟨m, starts⟩, part⟩ := Text.exists_eq_append_dropWhile '/' path.toList
  refine ⟨⟨n, ?_⟩, ⟨m, ?_⟩, ?_, ?_⟩
  · rw [← String.toList_inj, stemOf, slashes, String.toList_append, String.toList_ofList,
      String.toList_ofList]
    exact ends
  · rw [← String.toList_inj, partOf, slashes, String.toList_append, String.toList_ofList,
      String.toList_ofList]
    exact starts
  · rwa [stemOf, String.toList_ofList]
  · rwa [partOf, String.toList_ofList]

/-- Of valid settings and any path, the URL is what the base and the path are without the slashes
where they are joined, with one slash between. So it does not matter how many slashes the base ends
with, or the path starts with. It starts as the URL of something on the web just if the base has
something other than slashes behind its scheme; a base without that keeps no slash of its scheme. -/
theorem url_keeps_scheme_iff (s : Settings) (valid : s.validate = .ok ()) (path : String) :
    (∃ stem part, Joined (Text.trim s.baseUrl) path stem part ∧ s.url path = stem ++ "/" ++ part ∧
      (¬ HasHost (Text.trim s.baseUrl) → stem = "http:" ∨ stem = "https:")) ∧
    (∀ (t : Settings) (other : String),
      (∃ stem, EndsWithSlashes (Text.trim s.baseUrl) stem ∧
        EndsWithSlashes (Text.trim t.baseUrl) stem) →
      (∃ part, StartsWithSlashes path part ∧ StartsWithSlashes other part) →
      t.url other = s.url path) ∧
    (OnWeb (s.url path) ↔ HasHost (Text.trim s.baseUrl)) := by
  have web := (validate_eq_ok.mp valid).base
  have joined := joined_stemOf_partOf (Text.trim s.baseUrl) path
  refine ⟨⟨_, _, joined, url_eq s path, stemOf_of_not_hasHost web⟩, ?_, ?_⟩
  · rintro t other ⟨stem, ends, otherEnds⟩ ⟨part, starts, otherStarts⟩
    rw [url_eq, url_eq, ends.stemOf_eq, otherEnds.stemOf_eq, starts.partOf_eq,
      otherStarts.partOf_eq]
  · rw [url_eq]
    constructor
    · intro kept
      by_contra hostless
      exact not_onWeb_of_schemeless joined.part (stemOf_of_not_hasHost web hostless) kept
    · intro host
      rw [String.append_assoc]
      exact (onWeb_stemOf_of_hasHost host).append _

/-- Settings with blanks around a base that ends with two slashes. -/
theorem url_keeps_scheme_iff_trimmed :
    let s : Settings := { baseUrl := " https://h/a// " }
    OnWeb (s.url "//x") ∧ s.url "//x" = "https://h/a/x" := by
  intro s
  have host : HasHost (Text.trim s.baseUrl) :=
    ⟨"https://", "h/a//", .inr rfl, by decide +kernel, 'h', by decide, by decide⟩
  exact ⟨(url_keeps_scheme_iff s (by decide +kernel) "//x").2.2.mpr host, by decide +kernel⟩

/-- A base that is nothing but a scheme is valid, and its URLs are none of the web. -/
theorem url_loses_scheme :
    let s : Settings := { baseUrl := "http://" }
    s.validate = .ok () ∧ s.url "api/x" = "http:/api/x" ∧ ¬ OnWeb (s.url "api/x") := by
  intro s
  have damaged : s.url "api/x" = "http:/api/x" := by decide +kernel
  refine ⟨by decide +kernel, damaged, ?_⟩
  rw [damaged, OnWeb]
  decide

end NodeGroups.Settings
