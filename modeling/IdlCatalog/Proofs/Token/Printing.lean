/-
# IdlCatalog.Proofs.Token.Printing — texts that are put together from tokens

A text that was put together from the texts of tokens reads back as these tokens, provided that no
token goes on into the text after it. Words are kept apart by blanks; the one-character operators
that declarations use go on only with an equals sign.

`ReadsAs` speaks of a text in front of a rest, since what a text reads as depends on what follows
it. The rest is arbitrary but for its first character. Texts are put together from the end to the
front: the rest of a piece is the next piece and what follows that.
-/
import Mathlib.Data.List.Nodup
import IdlCatalog.Proofs.Token.Joining
import IdlCatalog.Proofs.Token.Longest

namespace IdlCatalog

namespace Lexer

variable {text text' rest : List Char} {ts ts' : List Token} {t : Token}

/-- In front of `rest` the text is read as the tokens. -/
def ReadsAs (text : List Char) (ts : List Token) (rest : List Char) : Prop :=
  tokens (text ++ rest) = ts ++ tokens rest

/-- No text has no tokens. -/
theorem ReadsAs.nil (rest : List Char) : ReadsAs [] [] rest := rfl

/-- Pieces that read as their tokens read as them together. -/
theorem ReadsAs.append (h : ReadsAs text ts (text' ++ rest)) (h' : ReadsAs text' ts' rest) :
    ReadsAs (text ++ text') (ts ++ ts') rest := by
  rw [ReadsAs, List.append_assoc, h, h', List.append_assoc]

/-- A blank in front of a text does not matter. -/
theorem ReadsAs.blank (h : ReadsAs text ts rest) : ReadsAs (' ' :: text) ts rest := by
  have gap : IsGap False [' '] := .blank (by decide) .nil
  exact (tokens_of_isGap gap (text ++ rest)).trans h

/-- No gap starts with the character. -/
def IsSolid (c : Char) : Prop := isBlank c = false ∧ c ≠ '/' ∧ c ≠ '#'

instance (c : Char) : Decidable (IsSolid c) := inferInstanceAs (Decidable (_ ∧ _))

/-- Where no gap starts there is none. -/
theorem splitGap_of_solid {c : Char} (solid : IsSolid c) (rest : List Char) :
    splitGap .between (c :: rest) = ([], c :: rest) := by
  obtain ⟨blank, slash, hash⟩ := solid
  rw [splitGap, if_neg hash, if_neg (by simp [blank])]
  · exact fun _ eq => absurd eq slash
  · exact fun _ eq => absurd eq slash

/-- A token is read where no gap stands before it and it does not go on into the text. -/
theorem readsAs_of_token
    (gap : splitGap .between (t.text.toList ++ rest) = ([], t.text.toList ++ rest))
    (whole : token (t.text.toList ++ rest) = (t, rest)) (goesOn : t.category ≠ .eof) :
    ReadsAs t.text.toList [t] rest := by
  have first : lexeme (t.text.toList ++ rest) = (⟨[], t⟩, rest) := by
    rw [lexeme, gap, whole]
  rw [ReadsAs, tokens_eq, first, if_neg goesOn]
  rfl

/-! ## Words and operators

Two conditions on the next character are all that printing needs. A word must not go on, which a
blank or any operator prevents. An operator of one character must not go on, which everything but an
equals sign prevents; dots and colons are printed with care of their own. -/

/-- No word goes on into the text. -/
def EndsWord (rest : List Char) : Prop := ∀ c ∈ rest.head?, isWordPart c = false

/-- No operator goes on into the text, apart from dots and colons. -/
def EndsOperator (rest : List Char) : Prop := ∀ c ∈ rest.head?, c ≠ '='

/-- A character that is no part of a word ends one. -/
theorem endsWord_cons {c : Char} (stop : isWordPart c = false) (rest : List Char) :
    EndsWord (c :: rest) := by
  intro d inside
  obtain rfl : c = d := by simpa using inside
  exact stop

/-- Any character but the equals sign ends an operator. -/
theorem endsOperator_cons {c : Char} (other : c ≠ '=') (rest : List Char) :
    EndsOperator (c :: rest) := by
  intro d inside
  obtain rfl : c = d := by simpa using inside
  exact other

/-- Neither a word nor an operator goes on into the text. -/
structure Breaks (rest : List Char) : Prop where
  word : EndsWord rest
  operator : EndsOperator rest

/-- At the end of the text everything ends. -/
theorem breaks_nil : Breaks [] := ⟨nofun, nofun⟩

/-- A character that ends words and operators. -/
theorem breaks_cons {c : Char} (stop : isWordPart c = false) (other : c ≠ '=')
    (rest : List Char) : Breaks (c :: rest) :=
  ⟨endsWord_cons stop rest, endsOperator_cons other rest⟩

/-- A word ends an operator. -/
theorem endsOperator_of_wordStart {c : Char} (start : isWordStart c = true) (rest : List Char) :
    EndsOperator (c :: rest) := by
  refine endsOperator_cons ?_ rest
  rintro rfl
  exact absurd start (by decide)

/-- A word starts no gap. -/
theorem solid_of_wordStart {c : Char} (start : isWordStart c = true) : IsSolid c := by
  refine ⟨?_, ?_, ?_⟩
  · -- every blank comes before the letters and the underscore
    simp only [isWordStart, isBlank, Bool.or_eq_true, Bool.and_eq_true, decide_eq_true_eq,
      decide_eq_false_iff_not, Char.le_def, UInt32.le_iff_toNat_le] at start ⊢
    intro low
    rcases start with (⟨high, -⟩ | ⟨high, -⟩) | rfl
    · exact absurd (high.trans low) (by decide)
    · exact absurd (high.trans low) (by decide)
    · exact absurd low (by decide)
  · rintro rfl
    exact absurd start (by decide)
  · rintro rfl
    exact absurd start (by decide)

/-- Words whose characters can be checked. -/
theorem spells_word {word : String} (start : word.toList.head?.any isWordStart = true)
    (parts : word.toList.all isWordPart = true) : Spells .word word.toList := by
  generalize word.toList = chars at start parts
  cases chars with
  | nil => cases start
  | cons c rest =>
    refine .word start fun d inside => ?_
    exact List.all_eq_true.1 parts d (List.mem_cons_of_mem c inside)

/-- A word is read as a word where no word goes on. -/
theorem readsAs_word {word : String} (spelled : Spells .word word.toList) (ends : EndsWord rest) :
    ReadsAs word.toList [⟨.word, word⟩] rest := by
  obtain ⟨c, tail, eq, start, all⟩ := spelled.word_head
  rw [eq] at all
  have split : splitWhile isWordPart (c :: tail ++ rest) = (c :: tail, rest) := by
    rw [splitWhile, List.takeWhile_append_of_pos all, List.dropWhile_append_of_pos all]
    cases rest with
    | nil => simp
    | cons d rest =>
      have stop : isWordPart d = false := ends d rfl
      simp [stop]
  have whole : token (word.toList ++ rest) = (⟨.word, word⟩, rest) := by
    rw [eq, List.cons_append, token, if_pos start, ← List.cons_append, split]
    simp only [← eq, String.ofList_toList]
  refine readsAs_of_token (t := ⟨.word, word⟩) ?_ whole (by rintro ⟨⟩)
  rw [eq]
  exact splitGap_of_solid (solid_of_wordStart start) _

/-- The character is an operator that goes on with an equals sign at most, and no gap starts with
it. -/
def IsMark (c : Char) : Prop := IsSolid c ∧ c ≠ '.' ∧ c ≠ ':'

instance (c : Char) : Decidable (IsMark c) := inferInstanceAs (Decidable (_ ∧ _))

/-- An operator of one character is read as that operator where no operator goes on. -/
theorem readsAs_operator {category : Category} {c : Char} (listed : (category, [c]) ∈ operatorTexts)
    (mark : IsMark c) (ends : EndsOperator rest) :
    ReadsAs [c] [⟨category, String.singleton c⟩] rest := by
  obtain ⟨solid, noDot, noColon⟩ := mark
  -- a longer operator goes on with an equals sign, or starts with a dot or a colon; and no two
  -- have one text
  have table : ∀ entry ∈ operatorTexts, (entry.2.tail = [] ∨ entry.2.tail.head? = some '=' ∨
      entry.2.head? = some '.' ∨ entry.2.head? = some ':') ∧
      entry.2.head?.all (fun c => !(isWordStart c || isDecimalDigit c || c = '"' || c = '\'')) ∧
      entry.1 ≠ .eof := by
    decide +kernel
  have unique : (operatorTexts.map (·.2)).Nodup := by decide +kernel
  obtain ⟨-, start, goesOn⟩ := table _ listed
  have found : operator? (c :: rest) = some (category, [c]) := by
    cases found : operator? (c :: rest) with
    | none => exact absurd found (operator_head listed rest)
    | some entry =>
      obtain ⟨category', lexeme⟩ := entry
      have inside := List.mem_of_find?_eq_some found
      obtain ⟨-, nonempty⟩ := operator?_ne_nil found
      obtain ⟨d, more, rfl⟩ := List.exists_cons_of_ne_nil nonempty
      obtain ⟨rfl, front⟩ := List.cons_prefix_cons.1 (operator?_isPrefix found)
      obtain rfl : more = [] := by
        rcases (table _ inside).1 with alone | longer
        · exact alone
        · cases more with
          | nil => rfl
          | cons e more =>
            obtain ⟨after, rfl⟩ := front
            have noEquals : e ≠ '=' := ends e rfl
            simp [noEquals, noColon, noDot] at longer
      rw [List.inj_on_of_nodup_map unique inside listed rfl]
  have whole : token ((String.singleton c).toList ++ rest) =
      (⟨category, String.singleton c⟩, rest) := by
    simp only [List.head?_cons, Option.all_some, Bool.not_eq_true', Bool.or_eq_false_iff,
      decide_eq_false_iff_not] at start
    obtain ⟨⟨⟨noWord, noDigit⟩, noQuote⟩, noQuote'⟩ := start
    simp [token, noWord, noDigit, noQuote, noQuote', found]
  have read : ReadsAs (String.singleton c).toList [⟨category, String.singleton c⟩] rest := by
    refine readsAs_of_token (t := ⟨category, String.singleton c⟩) ?_ whole goesOn
    rw [String.toList_singleton]
    exact splitGap_of_solid solid rest
  simpa using read

end Lexer

end IdlCatalog
