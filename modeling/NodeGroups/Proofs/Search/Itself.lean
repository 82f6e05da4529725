import NodeGroups.Proofs.Search.Substring

set_option autoImplicit false

namespace NodeGroups.Search

/-- A text that can be read as a query is found by it. -/
def FindsItself (mode : PatternMode) (text : String) : Prop :=
  ∀ q, Query.ofText mode text = .ok q → (q.fragmentsOf? text).isSome = true

theorem contains_self (cs : List Char) : Contains cs cs := by
  refine ⟨0, Nat.zero_le _, ?_⟩
  rw [OccursAt, List.drop_zero, List.take_length]
  rfl

namespace Query

variable {q : Query}

/-- A literal query that is read tells where its text occurs. -/
theorem tells_of_ofText {label : String} (read : ofText .literal label = .ok q) :
    q.Tells label := by
  by_cases fits : Pattern.compile (patternText .literal label) = .error .tooLarge
  · unfold ofText at read
    split at read
    · rename_i empty
      cases read
      rw [empty]
      exact everything_tells
    · rw [fits] at read
      cases read
  · obtain ⟨p, again, tells⟩ := ofText_literal label fits
    rw [read] at again
    cases again
    exact tells

theorem occurs_of_lengthAt {before : Option Char} {cs : List Char}
    (found : (q.lengthAt before cs).isSome = true) : q.occurs before cs = true := by
  cases cs with
  | nil => exact found
  | cons c cs => rw [occurs, found, Bool.true_or]

/-- A label has fragments just if the query occurs in it. -/
theorem isSome_fragmentsOf? (q : Query) (label : String) :
    (q.fragmentsOf? label).isSome = q.occurs none label.toList := by
  cases q with
  | everything => exact (occurs_of_lengthAt rfl).symm
  | pattern program =>
    change (if (pattern program).occurs none label.toList then some _ else none).isSome = _
    cases (pattern program).occurs none label.toList <;> rfl

end Query

theorem findsItself_literal (text : String) : FindsItself .literal text := by
  intro q read
  obtain ⟨fragments, found, -⟩ :=
    (Query.tells_of_ofText read text).1 (contains_self text.toList)
  rw [found, Option.isSome_some]

theorem findsItself_of_plain {text : String} (plain : ∀ c ∈ text.toList, Pattern.Plain c) :
    FindsItself .raw text := by
  intro q read
  rw [Query.ofText] at read
  split at read
  · cases read
    rfl
  · obtain ⟨sets, within, compiled⟩ := Pattern.compile_plain plain
    rw [Query.patternText, compiled] at read
    split at read
    · rename_i program same
      cases read
      split at same
      · cases same
        have front : ((Query.pattern (Pattern.Regex.row sets).program).lengthAt none
            text.toList).isSome = true := by
          rw [Query.lengthAt, Pattern.Program.lengthAt_row, if_pos within, Option.isSome_some]
        rw [Query.isSome_fragmentsOf?, Query.occurs_of_lengthAt front]
      · cases same
    · cases read

/-- A sum as a pattern asks for two ones without the sign between them. -/
theorem not_findsItself_sum : ¬ FindsItself .raw "1+1" := by
  -- Case forms are sorted, which no evaluation gets through, so they are rewritten first.
  let ones : Pattern.Regex :=
    .ofSequence [.repeated (.oneOf (.single '1')) 1 none true, .oneOf (.single '1')]
  have digit : Text.CaseFold.closure (.single '1') = .single '1' :=
    Text.CaseFold.closure_single_of_targets (by decide +kernel)
  have parsed : Pattern.Syntax.parse? "1+1".toList =
      some (.concatenation [.repetition (.ofChar '1') 1 none true, .ofChar '1']) := rfl
  have meant : (Pattern.Syntax.concatenation [.repetition (.ofChar '1') 1 none true,
      .ofChar '1']).regex? {} = some (.ofSequence
        [.repeated (.oneOf (Text.CaseFold.closure (.single '1'))) 1 none true,
          .oneOf (Text.CaseFold.closure (.single '1'))], {}) := rfl
  rw [digit] at meant
  have small : ones.footprint ≤ Pattern.maxFootprint := by decide +kernel
  have compiled : Pattern.compile (Query.patternText .raw "1+1") = .ok ones.program := by
    rw [Query.patternText, Pattern.compile, parsed, Option.bind_eq_bind, Option.bind_some, meant]
    exact if_pos small
  have read : Query.ofText .raw "1+1" = .ok (.pattern ones.program) := by
    rw [Query.ofText, if_neg (by decide), compiled]
  have unfound : (Query.pattern ones.program).occurs none "1+1".toList = false := by
    decide +kernel
  intro itself
  have found := itself _ read
  rw [Query.isSome_fragmentsOf?, unfound] at found
  cases found

end NodeGroups.Search
