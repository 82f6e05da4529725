import NodeGroups.Json.Decoder
import NodeGroups.Proofs.Json.Reading
import NodeGroups.Proofs.Json.Syntax

set_option autoImplicit false

namespace NodeGroups.Json.Source

open Grammar

/-- What a printed number is read as; the numbers without a text are printed as `null`. -/
def ofNumber (n : Number) : Source :=
  match readNumeral n.chars with
  | some (t, _) => .number t
  | none => .null

mutual

def ofJson : Json → Source
  | .null => .null
  | .bool b => .bool b
  | .number n => ofNumber n
  | .string s => .string (some s)
  | .array xs => .array (ofItems xs)
  | .object ms => .object (ofMembers ms)

def ofItems : List Json → List Source
  | [] => []
  | x :: xs => ofJson x :: ofItems xs

def ofMembers : List (String × Json) → List (Option String × Source)
  | [] => []
  | (k, x) :: ms => (some k, ofJson x) :: ofMembers ms

end

/-- The reader gets from a text to a source, whatever comes after the text. -/
def ReadsBack (t : List Char) (source : Source) : Prop :=
  ∀ fuel rest, 2 * t.length ≤ fuel → Ends rest → value fuel (t ++ rest) = some (source, rest)

theorem readsBack_numeral {n : Numeral} {t : List Char} (text : NumeralText n t) :
    ReadsBack t (.number n) := by
  intro fuel rest enough ends
  have read := readNumeral_of_text text ends
  obtain ⟨c, u, rfl, starts⟩ := numeralText_head text
  obtain ⟨k, rfl, -⟩ := fuel_succ enough
  rw [List.cons_append] at read ⊢
  rw [value_number starts, read]
  rfl

theorem ends_nil : Ends [] := fun _ _ same => nomatch same

theorem readsBack_chars (n : Number) : ReadsBack n.chars (ofNumber n) := by
  rcases numeralText_chars n with ⟨t, text⟩ | none
  · have read := readNumeral_of_text text ends_nil
    rw [List.append_nil] at read
    rw [ofNumber, read]
    exact readsBack_numeral text
  · intro fuel rest enough _
    rw [ofNumber]
    rw [none] at enough ⊢
    obtain ⟨k, rfl, -⟩ := fuel_succ enough
    rfl

theorem ofNumber_int (n : Int) :
    ofNumber (.int n) = .number ⟨decide (n < 0), Number.natChars n.natAbs, none, none⟩ := by
  have read := readNumeral_of_text (numeralText_int n) ends_nil
  rw [List.append_nil] at read
  change readNumeral (Number.int n).chars = _ at read
  rw [ofNumber, read]

theorem readsBack_quote (s : String) : ReadsBack (quote s) (.string (some s)) := by
  intro fuel rest enough _
  obtain ⟨u, quoted, reads⟩ := readString_of_text (stringText_quote s)
  rw [quoted] at enough ⊢
  obtain ⟨k, rfl, -⟩ := fuel_succ enough
  rw [List.cons_append, value, reads]
  rfl

/-- The text of a value starts with no white space and closes nothing. -/
theorem compactChars_solid (v : Json) :
    ∃ c u, compactChars v = c :: u ∧ isSpace c = false ∧ c ≠ ']' ∧ c ≠ '\x7d' := by
  cases v with
  | number n =>
    rcases numeralText_chars n with ⟨t, text⟩ | none
    · exact numeralText_solid text
    · exact ⟨'n', _, none, by decide⟩
  | bool b => cases b <;> exact ⟨_, _, rfl, by decide⟩
  | array xs => cases xs <;> exact ⟨_, _, rfl, by decide⟩
  | object ms => cases ms <;> exact ⟨_, _, rfl, by decide⟩
  | _ => exact ⟨_, _, rfl, by decide⟩

theorem skip_compactChars (v : Json) (rest : List Char) :
    skip (compactChars v ++ rest) = compactChars v ++ rest := by
  obtain ⟨c, u, text, solid, -⟩ := compactChars_solid v
  rw [text, List.cons_append, skip_cons solid]

theorem skip_quote (s : String) (rest : List Char) : skip (quote s ++ rest) = quote s ++ rest :=
  skip_cons rfl _

theorem ends_compactItems (xs : List Json) (rest : List Char) : Ends (compactItems xs ++ rest) := by
  cases xs <;> exact ends_cons (by decide) _

theorem ends_compactMembers (ms : List (String × Json)) (rest : List Char) :
    Ends (compactMembers ms ++ rest) := by
  cases ms <;> exact ends_cons (by decide) _

mutual

/-- The reader gets through the text of every value. -/
theorem readsBack_compactChars : (v : Json) → ReadsBack (compactChars v) (ofJson v)
  | .null => fun fuel rest enough _ => by
    obtain ⟨k, rfl, -⟩ := fuel_succ enough
    rfl
  | .bool true => fun fuel rest enough _ => by
    obtain ⟨k, rfl, -⟩ := fuel_succ enough
    rfl
  | .bool false => fun fuel rest enough _ => by
    obtain ⟨k, rfl, -⟩ := fuel_succ enough
    rfl
  | .number n => readsBack_chars n
  | .string s => readsBack_quote s
  | .array [] => fun fuel rest enough _ => by
    obtain ⟨k, rfl, -⟩ := fuel_succ enough
    exact value_emptyArray (skip_cons rfl rest)
  | .array (x :: xs) => fun fuel rest enough _ => by
    obtain ⟨k, rfl, rich⟩ := fuel_succ enough
    have onward := items_compactItems xs (readsBack_compactChars x) k [] rest
      (Nat.le_of_succ_le rich)
    obtain ⟨c, u, text, solid, more, -⟩ := compactChars_solid x
    rw [compactChars]
    rw [text] at onward ⊢
    exact (value_array (skip_cons solid _) more).trans onward
  | .object [] => fun fuel rest enough _ => by
    obtain ⟨k, rfl, -⟩ := fuel_succ enough
    exact value_emptyObject (skip_cons rfl rest)
  | .object ((k, x) :: ms) => fun fuel rest enough _ => by
    obtain ⟨f, rfl, rich⟩ := fuel_succ enough
    have onward := members_compactMembers ms k (readsBack_compactChars x) f [] rest
      (Nat.le_of_succ_le rich)
    exact (value_object (skip_cons (c := '"') rfl _) (by decide)).trans onward

/-- The reader gets through the items of an array, from one that it can read on. -/
theorem items_compactItems : (xs : List Json) → {x : Json} →
    ReadsBack (compactChars x) (ofJson x) → ∀ fuel acc rest,
      2 * (compactChars x ++ compactItems xs).length ≤ fuel →
      items fuel acc ((compactChars x ++ compactItems xs) ++ rest) =
        some (.array (acc.reverse ++ ofItems (x :: xs)), rest)
  | [], x, first => fun fuel acc rest enough => by
    rw [List.length_append] at enough
    obtain ⟨k, rfl, rich⟩ := fuel_succ (n := (compactChars x).length) enough
    have item := first k (']' :: rest) (by omega) (ends_cons (by decide) rest)
    rw [List.append_assoc]
    exact items_last item (skip_cons rfl rest)
  | y :: ys, x, first => fun fuel acc rest enough => by
    have size : 2 * ((compactChars x).length + (compactChars y ++ compactItems ys).length + 1) ≤
        fuel := by
      simp only [List.length_append, List.length_cons, compactItems] at enough ⊢
      omega
    obtain ⟨k, rfl, rich⟩ := fuel_succ size
    have item := first k (compactItems (y :: ys) ++ rest) (by omega) (ends_compactItems _ rest)
    have onward := items_compactItems ys (readsBack_compactChars y) k (ofJson x :: acc) rest
      (by omega)
    rw [List.append_assoc]
    rw [List.append_assoc] at onward
    rw [items_next item (skip_cons rfl _)]
    change items k _ (skip ((compactChars y ++ compactItems ys) ++ rest)) = _
    rw [List.append_assoc, skip_compactChars, onward, List.reverse_cons, List.append_assoc]
    rfl

/-- The reader gets through the members of an object, from one that it can read on. -/
theorem members_compactMembers : (ms : List (String × Json)) → (k : String) → {x : Json} →
    ReadsBack (compactChars x) (ofJson x) → ∀ fuel acc rest,
      2 * (quote k ++ ':' :: compactChars x ++ compactMembers ms).length ≤ fuel →
      members fuel acc ((quote k ++ ':' :: compactChars x ++ compactMembers ms) ++ rest) =
        some (.object (acc.reverse ++ ofMembers ((k, x) :: ms)), rest)
  | [], k, x, first => fun fuel acc rest enough => by
    obtain ⟨name, quoted, readName⟩ := readString_of_text (stringText_quote k)
    rw [quoted] at enough ⊢
    have size : 2 * (name.length + (compactChars x).length + 1) ≤ fuel := by
      simp only [List.length_append, List.length_cons] at enough
      omega
    obtain ⟨f, rfl, rich⟩ := fuel_succ size
    have item := first f ('\x7d' :: rest) (by omega) (ends_cons (by decide) rest)
    rw [← skip_compactChars] at item
    simp only [List.append_assoc, List.cons_append] at item ⊢
    exact members_last (readName _) (skip_cons rfl _) item (skip_cons rfl rest)
  | (l, y) :: ms, k, x, first => fun fuel acc rest enough => by
    obtain ⟨name, quoted, readName⟩ := readString_of_text (stringText_quote k)
    rw [quoted] at enough ⊢
    have size : 2 * (name.length + (compactChars x).length +
        (quote l ++ ':' :: compactChars y ++ compactMembers ms).length + 1) ≤ fuel := by
      simp only [List.length_append, List.length_cons, compactMembers] at enough ⊢
      omega
    obtain ⟨f, rfl, rich⟩ := fuel_succ size
    have item := first f (compactMembers ((l, y) :: ms) ++ rest) (by omega)
      (ends_compactMembers _ rest)
    have onward := members_compactMembers ms l (readsBack_compactChars y) f
      ((some k, ofJson x) :: acc) rest (by omega)
    rw [← skip_compactChars] at item
    simp only [List.append_assoc, List.cons_append] at item onward ⊢
    rw [members_next (readName _) (skip_cons rfl _) item (skip_cons rfl _)]
    change members f _
      (skip (((quote l ++ ':' :: compactChars y) ++ compactMembers ms) ++ rest)) = _
    rw [List.append_assoc, List.append_assoc, skip_quote]
    refine onward.trans ?_
    rw [List.reverse_cons, List.append_assoc]
    rfl

end

/-- The compact text of a value is read as the value was printed. -/
theorem parse?_compact (v : Json) : parse? v.compact = some (ofJson v) := by
  have read := readsBack_compactChars v (2 * (compactChars v).length + 2) [] (by omega) ends_nil
  rw [parse?, compact, String.toList_ofList, parseChars?, ← List.append_nil (compactChars v),
    skip_compactChars]
  rw [List.append_nil] at read ⊢
  rw [read]
  rfl

end NodeGroups.Json.Source

namespace NodeGroups.Json.Decoder

theorem knownMembers?_ofMembers {keys : List String} {ms : List (String × Json)}
    (distinct : (ms.map Prod.fst).Nodup) (known : ∀ m ∈ ms, m.1 ∈ keys) :
    knownMembers? keys (Source.ofMembers ms) =
      some (ms.map fun m => (m.1, Source.ofJson m.2)) := by
  induction ms with
  | nil => rfl
  | cons m ms ih =>
    obtain ⟨fresh, distinct⟩ := List.nodup_cons.mp distinct
    have read := ih distinct fun l member => known l (List.mem_cons_of_mem m member)
    have listed : keys.contains m.1 = true :=
      List.contains_iff_mem.mpr (known m List.mem_cons_self)
    have unused : ((ms.map fun l => (l.1, Source.ofJson l.2)).any fun l => l.1 == m.1) = false := by
      rw [List.any_map, List.any_eq_false]
      exact fun l member same => fresh (List.mem_map.mpr ⟨l, member, beq_iff_eq.mp same⟩)
    rw [Source.ofMembers, knownMembers?, read]
    simp only [Option.bind_eq_bind, Option.bind_some, listed, unused, if_true]
    rfl

/-- The fields of a printed record are its members. -/
theorem fields?_ofJson (keys : List String) {ms : List (String × Json)}
    (distinct : (ms.map Prod.fst).Nodup) (known : ∀ m ∈ ms, m.1 ∈ keys) (levels : Nat) :
    fields? keys (levels + 1) (Source.ofJson (.object ms)) =
      some ⟨levels, ms.map fun m => (m.1, Source.ofJson m.2)⟩ := by
  rw [Source.ofJson, fields?, if_neg (Nat.succ_ne_zero levels),
    knownMembers?_ofMembers distinct known]
  rfl

end NodeGroups.Json.Decoder
