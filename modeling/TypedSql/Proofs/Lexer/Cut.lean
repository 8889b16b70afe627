import Mathlib.Data.List.TakeWhile
import TypedSql.Proofs.Lexer.Spelling

/-!
# Texts that are cut at blanks

A blank outside of quoted names ends every lexeme before it. Where the text behind a blank has
no quotes in it, the blank is outside of quoted names, and the text is split into lexemes as if
nothing stood before it.
-/

namespace TypedSql
namespace Lexer

variable {vendor : Vendor}

/-! ## Runs -/

/-- A run does not go beyond a character that it does not accept. -/
theorem takeWhile_cut
    {accepts : Char → Bool}
    {stop : Char}
    (stops : accepts stop = false)
    (front back : List Char) :
    (front ++ stop :: back).takeWhile accepts = front.takeWhile accepts := by
  induction front with
  | nil => simp [stops]
  | cons first rest inductionHypothesis =>
      rw [List.cons_append, List.takeWhile_cons, List.takeWhile_cons, inductionHypothesis]

theorem dropWhile_cut
    {accepts : Char → Bool}
    {stop : Char}
    (stops : accepts stop = false)
    (front back : List Char) :
    (front ++ stop :: back).dropWhile accepts = front.dropWhile accepts ++ stop :: back := by
  induction front with
  | nil => simp [stops]
  | cons first rest inductionHypothesis =>
      rw [List.cons_append, List.dropWhile_cons, List.dropWhile_cons, inductionHypothesis]
      split <;> rfl

/--
A reader takes a run of characters, neither blanks nor quotes among them, and decides by the run
alone what it has read.
-/
structure ReadsRun
    (vendor : Vendor)
    (reads : List Char → Option (Lexeme × List Char))
    (accepts : Char → Bool) : Prop where
  blank : accepts ' ' = false
  quote : accepts vendor.quoteCharacter = false
  decides : ∃ result : List Char → Option Lexeme, ∀ rest,
    reads rest = (result (rest.takeWhile accepts)).map (·, rest.dropWhile accepts)

/-- A reader that takes nothing takes an empty run. -/
theorem readsRun_of_const
    {reads : List Char → Option (Lexeme × List Char)}
    (found : Option Lexeme)
    (takesNothing : ∀ rest, reads rest = found.map (·, rest)) :
    ReadsRun vendor reads fun _ => false where
  blank := rfl
  quote := rfl
  decides := by
    refine ⟨fun _ => found, fun rest => ?_⟩
    rw [takesNothing]
    cases rest <;> rfl

theorem exists_readsRun_placeholder (vendor : Vendor) :
    ∃ accepts, ReadsRun vendor (placeholder vendor) accepts := by
  cases vendor with
  | mysql => exact ⟨_, readsRun_of_const (some (.placeholder none)) fun _ => rfl⟩
  | sqlite =>
      refine ⟨Char.isDigit, rfl, rfl, fun digits =>
        some (.placeholder (if digits.isEmpty then none else some (numberOf digits))),
        fun rest => ?_⟩
      unfold placeholder run
      cases rest.takeWhile Char.isDigit <;> rfl
  | postgresql =>
      refine ⟨Char.isDigit, rfl, rfl, fun digits =>
        if digits.isEmpty then none else some (.placeholder (some (numberOf digits))),
        fun rest => ?_⟩
      unfold placeholder run
      cases rest.takeWhile Char.isDigit <;> rfl

/-- Every lexeme but a quoted name is read from a run behind its first character. -/
theorem exists_readsRun
    {first : Char}
    (unquoted : first ≠ vendor.quoteCharacter) :
    ∃ accepts, ReadsRun vendor (lexeme vendor first) accepts := by
  unfold lexeme
  simp only [if_neg unquoted]
  split
  · refine ⟨isWordPart, rfl, ?_, fun tail => some (.word (String.ofList (first :: tail))),
      fun rest => rfl⟩
    cases vendor <;> rfl
  split
  · refine ⟨Char.isDigit, rfl, ?_, fun tail => some (.number (numberOf (first :: tail))),
      fun rest => rfl⟩
    cases vendor <;> rfl
  split
  · exact exists_readsRun_placeholder vendor
  split
  · exact ⟨_, readsRun_of_const (some (.symbol (String.ofList [first]))) fun _ => rfl⟩
  split
  · refine ⟨isOperator, rfl, ?_, fun tail =>
      if hasComment (first :: tail) then none
      else some (.symbol (String.ofList (first :: tail))), fun rest => ?_⟩
    · cases vendor <;> rfl
    · cases commented : hasComment (first :: rest.takeWhile isOperator) <;>
        simp [run, commented]
  · exact ⟨_, readsRun_of_const none fun _ => rfl⟩

/-! ## Quotes -/

/-- A lexeme that is no quoted name is read up to a blank at most, and has no quotes. -/
theorem ReadsRun.cut
    {reads : List Char → Option (Lexeme × List Char)}
    {accepts : Char → Bool}
    {front back left : List Char}
    {found : Lexeme}
    (readsRun : ReadsRun vendor reads accepts)
    (read : reads (front ++ ' ' :: back) = some (found, left)) :
    ∃ middle, middle.length ≤ front.length ∧ reads front = some (found, middle) ∧
      left = middle ++ ' ' :: back := by
  obtain ⟨result, decides⟩ := readsRun.decides
  rw [decides, takeWhile_cut readsRun.blank, dropWhile_cut readsRun.blank,
    Option.map_eq_some_iff] at read
  obtain ⟨_, decided, same⟩ := read
  cases same
  refine ⟨front.dropWhile accepts, (List.dropWhile_sublist accepts).length_le, ?_, rfl⟩
  rw [decides, decided]
  rfl

theorem ReadsRun.quote_not_mem
    {reads : List Char → Option (Lexeme × List Char)}
    {accepts : Char → Bool}
    {rest left : List Char}
    {found : Lexeme}
    (readsRun : ReadsRun vendor reads accepts)
    (read : reads rest = some (found, left))
    (absent : vendor.quoteCharacter ∉ left) :
    vendor.quoteCharacter ∉ rest := by
  obtain ⟨result, decides⟩ := readsRun.decides
  rw [decides, Option.map_eq_some_iff] at read
  obtain ⟨_, _, same⟩ := read
  cases same
  rw [← List.takeWhile_append_dropWhile (p := accepts) (l := rest), List.mem_append]
  rintro (taken | dropped)
  · have accepted := List.mem_takeWhile_imp taken
    rw [readsRun.quote] at accepted
    cases accepted
  · exact absent dropped

/-! ## Quoted names -/

section Quoted

variable {quote first : Char} {rest : List Char}

theorem quoted_cons (part : first ≠ quote) :
    quoted quote (first :: rest) =
      (quoted quote rest).map fun (content, left) => (first :: content, left) := by
  rw [quoted.eq_def]
  exact if_neg part

theorem quoted_quote_quote :
    quoted quote (quote :: quote :: rest) =
      (quoted quote rest).map fun (content, left) => (quote :: content, left) := by
  rw [quoted.eq_def]
  simp only [if_true]

theorem quoted_quote_cons (ends : first ≠ quote) :
    quoted quote (quote :: first :: rest) = some ([], first :: rest) := by
  rw [quoted.eq_def]
  simp only [if_true, if_neg ends]

theorem quoted_eq_none (absent : quote ∉ rest) : quoted quote rest = none := by
  induction rest with
  | nil => rw [quoted]
  | cons first rest inductionHypothesis =>
      rw [List.mem_cons, not_or] at absent
      rw [quoted_cons (Ne.symm absent.1), inductionHypothesis absent.2, Option.map_none]

/-- A quoted name is closed before a blank if there is no quote behind the blank. -/
theorem quoted_cut
    {front back content left : List Char}
    (visible : quote ≠ ' ')
    (absent : quote ∉ back)
    (read : quoted quote (front ++ ' ' :: back) = some (content, left)) :
    ∃ middle, middle.length ≤ front.length ∧ quoted quote front = some (content, middle) ∧
      left = middle ++ ' ' :: back := by
  -- The two quotes of a doubled one stand side by side, so that the blank is in between of
  -- neither them nor a quote and the end of its name.
  fun_induction quoted quote front generalizing content left with
  | case1 =>
      have none : quoted quote (' ' :: back) = none :=
        quoted_eq_none (by simp [visible, absent])
      rw [List.nil_append, none] at read
      cases read
  | case2 =>
      rw [List.singleton_append, quoted_quote_cons (Ne.symm visible)] at read
      cases read
      exact ⟨[], Nat.zero_le _, rfl, rfl⟩
  | case3 rest inductionHypothesis =>
      rw [List.cons_append, List.cons_append, quoted_quote_quote] at read
      obtain ⟨⟨inner, _⟩, innerRead, same⟩ := Option.map_eq_some_iff.mp read
      cases same
      obtain ⟨middle, shorter, innerQuoted, rfl⟩ := inductionHypothesis innerRead
      refine ⟨middle, Nat.le_add_right_of_le (Nat.le_add_right_of_le shorter), ?_, rfl⟩
      rw [innerQuoted]
      rfl
  | case4 second rest ends =>
      rw [List.cons_append, List.cons_append, quoted_quote_cons ends] at read
      cases read
      exact ⟨second :: rest, Nat.le_succ _, rfl, rfl⟩
  | case5 first rest part inductionHypothesis =>
      rw [List.cons_append, quoted_cons part] at read
      obtain ⟨⟨inner, _⟩, innerRead, same⟩ := Option.map_eq_some_iff.mp read
      cases same
      obtain ⟨middle, shorter, innerQuoted, rfl⟩ := inductionHypothesis innerRead
      refine ⟨middle, Nat.le_add_right_of_le shorter, ?_, rfl⟩
      rw [innerQuoted]
      rfl

end Quoted

/-! ## Texts -/

theorem quoteCharacter_visible (vendor : Vendor) :
    vendor.quoteCharacter.isWhitespace = false ∧ vendor.quoteCharacter ≠ ' ' := by
  cases vendor <;> decide

/-- A lexeme that is read before a blank is read without what is behind it. -/
theorem lexeme_cut
    {first : Char}
    {front back left : List Char}
    {found : Lexeme}
    (absent : vendor.quoteCharacter ∉ back)
    (read : lexeme vendor first (front ++ ' ' :: back) = some (found, left)) :
    ∃ middle, middle.length ≤ front.length ∧ lexeme vendor first front = some (found, middle) ∧
      left = middle ++ ' ' :: back := by
  by_cases quotes : first = vendor.quoteCharacter
  · rw [lexeme, if_pos quotes] at read
    obtain ⟨⟨content, _⟩, quotedRead, same⟩ := Option.map_eq_some_iff.mp read
    cases same
    obtain ⟨middle, shorter, frontQuoted, rfl⟩ :=
      quoted_cut (quoteCharacter_visible vendor).2 absent quotedRead
    refine ⟨middle, shorter, ?_, rfl⟩
    rw [lexeme, if_pos quotes, frontQuoted]
    rfl
  · obtain ⟨accepts, readsRun⟩ := exists_readsRun quotes
    exact readsRun.cut read

/-- A text that starts with no blank is a lexeme and what follows it. -/
theorem lexemes_cons_eq_some
    {first : Char}
    {rest : List Char}
    {found : List Lexeme}
    (visible : first.isWhitespace = false) :
    lexemes vendor (first :: rest) = some found ↔
      ∃ item left, lexeme vendor first rest = some (item, left) ∧
        left.length ≤ rest.length ∧
        ∃ others, lexemes vendor left = some others ∧ item :: others = found := by
  rw [lexemes, visible, if_neg Bool.false_ne_true]
  cases lexeme vendor first rest with
  | none => simp
  | some read =>
      obtain ⟨item, left⟩ := read
      by_cases shorter : left.length ≤ rest.length
      · simp only [dif_pos shorter, Option.map_eq_some_iff]
        constructor
        · rintro ⟨others, read, rfl⟩
          exact ⟨item, left, rfl, shorter, others, read, rfl⟩
        · rintro ⟨_, _, ⟨⟩, _, others, read, rfl⟩
          exact ⟨others, read, rfl⟩
      · simp only [dif_neg shorter]
        constructor
        · rintro ⟨⟩
        · rintro ⟨_, _, ⟨⟩, isShorter, _⟩
          exact absurd isShorter shorter

/-- A text without quoted names has no quotes. -/
theorem quote_not_mem_of_lexemes
    {content : List Char}
    {found : List Lexeme}
    (read : lexemes vendor content = some found)
    (nameless : ∀ name, .name name ∉ found) :
    vendor.quoteCharacter ∉ content := by
  fun_induction lexemes vendor content generalizing found with
  | case1 => exact List.not_mem_nil
  | case2 first rest blank inductionHypothesis =>
      have unquoted : vendor.quoteCharacter ≠ first := by
        rintro rfl
        rw [(quoteCharacter_visible vendor).1] at blank
        cases blank
      exact List.not_mem_cons_of_ne_of_not_mem unquoted (inductionHypothesis read nameless)
  | case3 => cases read
  | case4 first rest _ item left itemRead _ inductionHypothesis =>
      obtain ⟨others, othersRead, rfl⟩ := Option.map_eq_some_iff.mp read
      have absent := inductionHypothesis othersRead fun name member =>
        nameless name (List.mem_cons_of_mem item member)
      have unquoted : first ≠ vendor.quoteCharacter := by
        intro quotes
        rw [lexeme, if_pos quotes] at itemRead
        obtain ⟨⟨name, _⟩, _, same⟩ := Option.map_eq_some_iff.mp itemRead
        cases same
        exact nameless _ List.mem_cons_self
      obtain ⟨accepts, readsRun⟩ := exists_readsRun unquoted
      exact List.not_mem_cons_of_ne_of_not_mem (Ne.symm unquoted)
        (readsRun.quote_not_mem itemRead absent)
  | case5 => cases read

/-- A text is cut at a blank without quotes behind it. -/
theorem lexemes_cut
    {front back : List Char}
    {found : List Lexeme}
    (absent : vendor.quoteCharacter ∉ back)
    (read : lexemes vendor (front ++ ' ' :: back) = some found) :
    ∃ before behind, lexemes vendor front = some before ∧
      lexemes vendor back = some behind ∧ found = before ++ behind := by
  fun_induction lexemes vendor front generalizing found with
  | case1 =>
      rw [List.nil_append, lexemes_blank] at read
      exact ⟨[], found, rfl, read, rfl⟩
  | case2 first rest blank inductionHypothesis =>
      rw [List.cons_append, lexemes, if_pos blank] at read
      exact inductionHypothesis read
  | case3 first rest visible unread =>
      rw [List.cons_append, lexemes_cons_eq_some (Bool.eq_false_iff.mpr visible)] at read
      obtain ⟨item, left, itemRead, _⟩ := read
      obtain ⟨middle, _, frontRead, _⟩ := lexeme_cut absent itemRead
      rw [unread] at frontRead
      cases frontRead
  | case4 first rest visible item middle frontRead shorter inductionHypothesis =>
      rw [List.cons_append, lexemes_cons_eq_some (Bool.eq_false_iff.mpr visible)] at read
      obtain ⟨_, _, itemRead, _, others, othersRead, rfl⟩ := read
      obtain ⟨_, _, sameRead, rfl⟩ := lexeme_cut absent itemRead
      rw [frontRead] at sameRead
      cases sameRead
      obtain ⟨before, behind, beforeRead, behindRead, rfl⟩ := inductionHypothesis othersRead
      exact ⟨item :: before, behind, by rw [beforeRead]; rfl, behindRead, rfl⟩
  | case5 first rest visible item middle frontRead longer =>
      rw [List.cons_append, lexemes_cons_eq_some (Bool.eq_false_iff.mpr visible)] at read
      obtain ⟨_, _, itemRead, _⟩ := read
      obtain ⟨_, shorter, sameRead, _⟩ := lexeme_cut absent itemRead
      rw [frontRead] at sameRead
      cases sameRead
      exact absurd shorter longer

end Lexer
end TypedSql
