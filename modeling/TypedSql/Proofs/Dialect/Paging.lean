import TypedSql.Proofs.Lexer.Spelling

/-!
# Windows of rows

A paging clause asks for a window: the rows that are left after an offset, and no more of them
than a limit allows. Each database reads the clause by a grammar of its own, and each reads in
its own clause the window that was asked for, apart from the greatest limit that stands for
none.
-/

namespace TypedSql

/-- How many rows are left out, and how many are kept at most of those that follow. -/
structure Window where
  offset : Nat
  limit : Option Nat
  deriving DecidableEq

namespace Window

variable {α : Type}

/-- The rows in a window. -/
def rows (window : Window) (rows : List α) : List α :=
  match window.limit with
  | none => rows.drop window.offset
  | some limit => (rows.drop window.offset).take limit

/-- A limit that no list of rows reaches is none. -/
theorem rows_of_length_le
    {rows : List α}
    {limit : Nat}
    (short : rows.length ≤ limit)
    (offset : Nat) :
    Window.rows ⟨offset, some limit⟩ rows = Window.rows ⟨offset, none⟩ rows := by
  refine List.take_of_length_le ?_
  rw [List.length_drop]
  omega

end Window

/-- Whether a lexeme is one of the words that a paging clause starts with. -/
def Lexeme.startsPage : Lexeme → Bool
  | .word content => content == "LIMIT" || content == "OFFSET"
  | _ => false

namespace Vendor

/-! ## Grammars -/

/-- The number of an offset that may be left out. -/
def offsetPart? : List Lexeme → Option Nat
  | [] => some 0
  | [.word "OFFSET", .number offset] => some offset
  | _ => none

/--
The window that a paging clause asks for: `[LIMIT n] [OFFSET m]` in PostgreSQL, one of both at
least; `LIMIT n [OFFSET m]` in SQLite, where a limit of minus one is none; and `LIMIT [m,] n` in
MySQL.
-/
def window? : Vendor → List Lexeme → Option Window
  | .postgresql, .word "LIMIT" :: .number limit :: rest =>
      (offsetPart? rest).map (⟨·, some limit⟩)
  | .postgresql, [.word "OFFSET", .number offset] => some ⟨offset, none⟩
  | .sqlite, .word "LIMIT" :: .symbol "-" :: .number 1 :: rest =>
      (offsetPart? rest).map (⟨·, none⟩)
  | .sqlite, .word "LIMIT" :: .number limit :: rest =>
      (offsetPart? rest).map (⟨·, some limit⟩)
  | .mysql, [.word "LIMIT", .number limit] => some ⟨0, some limit⟩
  | .mysql, [.word "LIMIT", .number offset, .symbol ",", .number limit] =>
      some ⟨offset, some limit⟩
  | _, _ => none

/-- The window that the text of a paging clause asks for. -/
def readPage? (vendor : Vendor) (text : String) : Option Window :=
  (Lexer.lex vendor text).bind vendor.window?

/-- The limit that a database is given where one may have been asked for. -/
def limitFor : Vendor → Option UInt64 → Option Nat
  | .mysql, none => some 0xFFFFFFFFFFFFFFFF
  | _, limit => limit.map UInt64.toNat

/-- The window that a database is asked for. -/
def windowFor (vendor : Vendor) (limit offset : Option UInt64) : Window :=
  ⟨(offset.map UInt64.toNat).getD 0, vendor.limitFor limit⟩

/-! ## Clauses that are read -/

/-- A paging clause is written if there is something to be asked for. -/
theorem paging_eq_none_iff (vendor : Vendor) {limit offset : Option UInt64} :
    vendor.paging limit offset = none ↔ limit = none ∧ offset = none := by
  cases vendor <;> cases limit <;> cases offset <;> simp [paging]

theorem exists_of_offsetPart?
    {found : List Lexeme}
    {offset : Nat}
    (read : offsetPart? found = some offset) :
    found = [] ∨ found = [.word "OFFSET", .number offset] := by
  unfold offsetPart? at read
  split at read
  · exact .inl rfl
  · cases read
    exact .inr rfl
  · cases read

/-- A clause that is read starts with one of the two words, and has no names in it. -/
theorem exists_of_window?
    {vendor : Vendor}
    {found : List Lexeme}
    {window : Window}
    (read : vendor.window? found = some window) :
    (∃ first ∈ found, first.startsPage = true) ∧ ∀ name, .name name ∉ found := by
  have offsetless {rest : List Lexeme} {limit : Option Nat}
      (offsetRead : (offsetPart? rest).map (⟨·, limit⟩) = some window) :
      ∀ name, .name name ∉ rest := by
    obtain ⟨offset, offsetRead, _⟩ := Option.map_eq_some_iff.mp offsetRead
    intro name
    rcases exists_of_offsetPart? offsetRead with rfl | rfl <;> simp
  unfold window? at read
  split at read
  · exact ⟨⟨_, List.mem_cons_self, rfl⟩, by simpa using offsetless read⟩
  · exact ⟨⟨_, List.mem_cons_self, rfl⟩, by simp⟩
  · exact ⟨⟨_, List.mem_cons_self, rfl⟩, by simpa using offsetless read⟩
  · exact ⟨⟨_, List.mem_cons_self, rfl⟩, by simpa using offsetless read⟩
  · exact ⟨⟨_, List.mem_cons_self, rfl⟩, by simp⟩
  · exact ⟨⟨_, List.mem_cons_self, rfl⟩, by simp⟩
  · cases read

end Vendor

namespace Lexer

variable {left : List Char}

theorem lexemes_nil (vendor : Vendor) : lexemes vendor [] = some [] := by
  rw [lexemes]

theorem delimited_nil : Delimited [] := by
  intro first member
  cases member

theorem delimited_cons
    {first : Char}
    (delimits : first.isWhitespace = true ∨ isPunctuation first = true)
    (rest : List Char) :
    Delimited (first :: rest) := by
  rintro _ ⟨⟩
  exact delimits

/-- A word and a number behind it are two lexemes. -/
theorem lexemes_word_number
    (vendor : Vendor)
    {word : String}
    (isWord : isWord word = true)
    (count : Nat)
    (delimited : Delimited left) :
    lexemes vendor (word.toList ++ ' ' :: ((toString count).toList ++ left)) =
      (lexemes vendor left).map fun others => .word word :: .number count :: others := by
  rw [(spells_word vendor isWord (delimited_cons (.inl rfl) _)).lexemes, lexemes_blank,
    (spells_number vendor count delimited).lexemes, Option.map_map]
  rfl

/-- The number of a limit ends where a blank, a punctuation mark or nothing follows. -/
theorem lexemes_limit (vendor : Vendor) (count : Nat) (delimited : Delimited left) :
    lexemes vendor ("LIMIT ".toList ++ ((toString count).toList ++ left)) =
      (lexemes vendor left).map fun others => .word "LIMIT" :: .number count :: others := by
  have isLimit : isWord "LIMIT" = true := by decide
  exact lexemes_word_number vendor isLimit count delimited

theorem lexemes_offset (vendor : Vendor) (count : Nat) :
    lexemes vendor ("OFFSET ".toList ++ (toString count).toList) =
      some [.word "OFFSET", .number count] := by
  have isOffset : isWord "OFFSET" = true := by decide
  have read := lexemes_word_number vendor isOffset count delimited_nil
  rw [List.append_nil, lexemes_nil] at read
  exact read

/-- A number behind a comma and a blank. -/
theorem lexemes_comma (vendor : Vendor) (count : Nat) :
    lexemes vendor (", ".toList ++ (toString count).toList) =
      some [.symbol ",", .number count] := by
  have comma : Spells vendor ",".toList (.symbol ",") (' ' :: (toString count).toList) :=
    spells_punctuation vendor _ rfl rfl
  have read := (spells_number vendor count delimited_nil).lexemes
  rw [List.append_nil, lexemes_nil] at read
  change lexemes vendor (",".toList ++ ' ' :: (toString count).toList) = _
  rw [comma.lexemes, lexemes_blank, read]
  rfl

/-- A sign before a digit is a lexeme of its own. -/
theorem spells_minus (rest : List Char) :
    Spells .sqlite "-".toList (.symbol "-") ('1' :: rest) :=
  ⟨'-', [], rfl, rfl, rfl⟩

/-- The limit that is none, before an offset. -/
theorem lexemes_unlimited (offset : Nat) :
    lexemes .sqlite ("LIMIT -1 OFFSET ".toList ++ (toString offset).toList) =
      some [.word "LIMIT", .symbol "-", .number 1, .word "OFFSET", .number offset] := by
  have isLimit : isWord "LIMIT" = true := by decide
  have limit (rest : List Char) :
      Spells .sqlite "LIMIT".toList (.word "LIMIT") (' ' :: rest) :=
    spells_word .sqlite isLimit (delimited_cons (.inl rfl) rest)
  have one (rest : List Char) : Spells .sqlite ['1'] (.number 1) (' ' :: rest) :=
    spells_number .sqlite 1 (delimited_cons (.inl rfl) rest)
  change lexemes .sqlite ("LIMIT".toList ++ ' ' :: ("-".toList ++ '1' :: ' ' ::
    ("OFFSET ".toList ++ (toString offset).toList))) = _
  rw [(limit _).lexemes, lexemes_blank, (spells_minus _).lexemes]
  rw [← List.singleton_append, (one _).lexemes, lexemes_blank, lexemes_offset]
  rfl

end Lexer

namespace Vendor

theorem readPage?_offset (vendor : Vendor) (offset : Nat) :
    vendor.readPage? ("OFFSET " ++ toString offset) =
      vendor.window? [.word "OFFSET", .number offset] := by
  rw [readPage?, Lexer.lex, String.toList_append, Lexer.lexemes_offset]
  rfl

theorem readPage?_limit (vendor : Vendor) (limit : Nat) :
    vendor.readPage? ("LIMIT " ++ toString limit) =
      vendor.window? [.word "LIMIT", .number limit] := by
  have read := Lexer.lexemes_limit vendor limit Lexer.delimited_nil
  rw [List.append_nil, Lexer.lexemes_nil] at read
  rw [readPage?, Lexer.lex, String.toList_append, read]
  rfl

theorem readPage?_limit_offset (vendor : Vendor) (limit offset : Nat) :
    vendor.readPage? ("LIMIT " ++ toString limit ++ " OFFSET " ++ toString offset) =
      vendor.window? [.word "LIMIT", .number limit, .word "OFFSET", .number offset] := by
  have delimited : Lexer.Delimited (" OFFSET ".toList ++ (toString offset).toList) :=
    Lexer.delimited_cons (.inl rfl) _
  have second : Lexer.lexemes vendor (" OFFSET ".toList ++ (toString offset).toList) = _ :=
    (Lexer.lexemes_blank vendor _).trans (Lexer.lexemes_offset vendor offset)
  have read := Lexer.lexemes_limit vendor limit delimited
  rw [second] at read
  simp only [readPage?, Lexer.lex, String.toList_append, List.append_assoc, read]
  rfl

theorem readPage?_unlimited (offset : Nat) :
    sqlite.readPage? ("LIMIT -1 OFFSET " ++ toString offset) =
      sqlite.window?
        [.word "LIMIT", .symbol "-", .number 1, .word "OFFSET", .number offset] := by
  rw [readPage?, Lexer.lex, String.toList_append, Lexer.lexemes_unlimited]
  rfl

theorem readPage?_pair (vendor : Vendor) (offset limit : Nat) :
    vendor.readPage? ("LIMIT " ++ toString offset ++ ", " ++ toString limit) =
      vendor.window? [.word "LIMIT", .number offset, .symbol ",", .number limit] := by
  have delimited : Lexer.Delimited (", ".toList ++ (toString limit).toList) :=
    Lexer.delimited_cons (.inr rfl) _
  have read := Lexer.lexemes_limit vendor offset delimited
  rw [Lexer.lexemes_comma] at read
  simp only [readPage?, Lexer.lex, String.toList_append, List.append_assoc, read]
  rfl

/-- A database reads in its own paging clause the window that it is asked for. -/
theorem readPage?_paging
    {vendor : Vendor}
    {limit offset : Option UInt64}
    {text : String}
    (asked : vendor.paging limit offset = some text) :
    vendor.readPage? text = some (vendor.windowFor limit offset) := by
  cases vendor with
  | postgresql =>
      cases limit <;> cases offset <;> cases asked
      · exact readPage?_offset _ _
      · exact readPage?_limit _ _
      · exact readPage?_limit_offset _ _ _
  | sqlite =>
      cases limit <;> cases offset <;> cases asked
      · exact readPage?_unlimited _
      · exact readPage?_limit _ _
      · exact readPage?_limit_offset _ _ _
  | mysql =>
      cases limit <;> cases offset <;> cases asked
      · exact readPage?_pair _ _ _
      · exact readPage?_limit _ _
      · exact readPage?_pair _ _ _

/-- A limit that stands for none keeps all rows, as there are fewer of them. -/
theorem rows_windowFor
    {α : Type}
    {rows : List α}
    (fewer : rows.length < 0x10000000000000000)
    (vendor : Vendor)
    (limit offset : Option UInt64) :
    (vendor.windowFor limit offset).rows rows =
      Window.rows ⟨(offset.map UInt64.toNat).getD 0, limit.map UInt64.toNat⟩ rows := by
  cases limit with
  | some limit => cases vendor <;> rfl
  | none =>
      cases vendor with
      | mysql => exact Window.rows_of_length_le (Nat.le_of_lt_succ fewer) _
      | postgresql | sqlite => rfl

end Vendor
end TypedSql
