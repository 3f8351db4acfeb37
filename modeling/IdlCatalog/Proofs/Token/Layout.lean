/-
# IdlCatalog.Proofs.Token.Layout — tokens laid out as a text

Tokens may be written with any blanks and comments before, between and after them, and without a gap
where one token does not go on into the next. A text that is laid out like this reads back as the
tokens.

The lexer takes the longest token there is. So it is enough that nothing longer is spelled like a
token, and it depends on the next character alone whether there may be something longer.

`goesOn` is a decidable test on one token and one character, so whether tokens may stand without a
gap can be computed. It is cautious: it says yes wherever some token might be longer, and a layout
that passes it always reads back. Reading back is all that is claimed; a text that does not pass the
test may read back as well.
-/
import IdlCatalog.Proofs.Token.Printing

namespace IdlCatalog

namespace Lexer

variable {text rest front back : List Char} {ts : List Token} {t : Token} {c : Char}
  {category longer : Category}

/-! ## Layouts

Gap and token alternate, and a gap may be empty if the token before it does not go on. `laysOut` is
the same with blanks only, as a function, for texts that are given. -/

/-- A token of some text, other than its end. -/
def IsToken (t : Token) : Prop := t.category ≠ .eof ∧ ∃ text, t ∈ tokens text

/-- Whether there may be a longer token, or a comment, that starts with the token and the
character. -/
def goesOn (t : Token) (c : Char) : Bool :=
  match t.category with
  | .word => isWordPart c
  | .number => isWordPart c || ['.', '+', '-'].contains c
  | .slash => ['/', '*'].contains c
  | _ => operatorTexts.any fun e => (t.text.toList ++ [c]).isPrefixOf e.2

/-- The text consists of the tokens, in this order, and of complete gaps, some of which may be
empty. -/
inductive LaidOut : List Token → List Char → Prop
  | nil {gap : List Char} (complete : IsGap False gap) : LaidOut [] gap
  | cons {gap text : List Char} {t : Token} {ts : List Token} (complete : IsGap False gap)
      (apart : ∀ c ∈ text.head?, goesOn t c = false) (more : LaidOut ts text) :
      LaidOut (t :: ts) (gap ++ (t.text.toList ++ text))

/-- In front of a blank every token ends. -/
theorem goesOn_blank (t : Token) (blank : isBlank c = true) : goesOn t c = false := by
  have other {d : Char} (solid : isBlank d = false) : c ≠ d := by
    rintro rfl
    rw [solid] at blank
    cases blank
  have part : isWordPart c = false := by
    rw [isWordPart, Bool.or_eq_false_iff]
    refine ⟨Bool.eq_false_iff.2 fun start => ?_, Bool.eq_false_iff.2 fun digit => ?_⟩
    · simp [(solid_of_wordStart start).1] at blank
    · simp only [isBlank, isDecimalDigit, Bool.and_eq_true, decide_eq_true_eq, Char.le_def,
        UInt32.le_iff_toNat_le] at blank digit
      exact absurd (digit.1.trans blank) (by decide)
  -- no operator has a blank in it
  have table : ∀ entry ∈ operatorTexts, entry.2.all (fun d => !isBlank d) = true := by
    decide +kernel
  unfold goesOn
  split
  · exact part
  · simp [part, other (d := '.') (by decide), other (d := '+') (by decide),
      other (d := '-') (by decide)]
  · simp [other (d := '/') (by decide), other (d := '*') (by decide)]
  · refine List.any_eq_false.2 fun entry listed front => ?_
    obtain ⟨more, eq⟩ := List.isPrefixOf_iff_prefix.1 front
    have solid := List.all_eq_true.1 (table entry listed) c (by rw [← eq]; simp)
    exact other (by simpa using solid) rfl

/-- A blank in front changes nothing. -/
theorem LaidOut.blank (laid : LaidOut ts text) (blank : isBlank c = true) :
    LaidOut ts (c :: text) := by
  have small : c ≤ ' ' := by simpa [isBlank] using blank
  cases laid with
  | nil complete => exact .nil (.blank small complete)
  | cons complete apart more => exact .cons (.blank small complete) apart more

/-- Words, numbers and strings are told apart by their first characters. -/
theorem Spells.category_eq (h : Spells category (c :: front)) (h' : Spells longer (c :: back))
    (marked : longer = .word ∨ longer = .number ∨ longer = .string) : category = longer := by
  obtain ⟨word, number, string⟩ := category_of_startsLike h.startsLike
  have starts := h'.startsLike
  rcases marked with rfl | rfl | rfl
  · exact word starts
  · exact number starts
  · exact string (by simpa [Lexer.startsLike] using starts)

/-- The characters of a number. -/
theorem number_part (spelled : Spells .number text) (inside : c ∈ text) :
    isWordPart c = true ∨ c = '.' ∨ c = '+' ∨ c = '-' := by
  have digit {d : Char} (digit : isDecimalDigit d = true) : isWordPart d = true := by
    simp [isWordPart, digit]
  -- the characters of a number are digits, letters, a point and signs
  cases spelled with
  | operator listed => exact absurd rfl (operator_category listed).2.1
  | @decimal whole fraction exponent _ digits isFraction isExponent =>
    simp only [List.mem_append] at inside
    rcases inside with inside | inside | inside
    · exact .inl (digit (digits c inside))
    · rcases isFraction with rfl | ⟨digits, rfl, all⟩
      · cases inside
      · rcases List.mem_cons.1 inside with rfl | inside
        · exact .inr (.inl rfl)
        · exact .inl (digit (all c inside))
    · rcases isExponent with rfl | ⟨letter, sign, digits, rfl, letters, isSign, -, all⟩
      · cases inside
      rcases List.mem_cons.1 inside with rfl | inside
      · rcases letters with rfl | rfl <;> exact .inl rfl
      rcases List.mem_append.1 inside with inside | inside
      · rcases isSign with rfl | rfl | rfl <;> simp_all
      · exact .inl (digit (all c inside))
  | @hexadecimal mark digits marks all =>
    rcases List.mem_cons.1 inside with rfl | inside
    · exact .inl rfl
    rcases List.mem_cons.1 inside with rfl | inside
    · rcases marks with rfl | rfl <;> exact .inl rfl
    · left
      have hex := all c inside
      simp only [isHexDigit, isDecimalDigit, isWordPart, isWordStart, Bool.or_eq_true,
        Bool.and_eq_true, decide_eq_true_eq, Char.le_def, UInt32.le_iff_toNat_le] at hex ⊢
      have : ('f' : Char).val.toNat ≤ ('z' : Char).val.toNat := by decide
      have : ('F' : Char).val.toNat ≤ ('Z' : Char).val.toNat := by decide
      omega

/-- A string ends with its second quote. -/
theorem string_not_over {quote : Char} {body : List Char} (inside : quote ∉ body)
    (spelled : Spells .string front) : front ++ c :: back ≠ quote :: (body ++ [quote]) := by
  intro eq
  cases spelled with
  | operator listed => exact absurd rfl (operator_category listed).2.2
  | @string quote' body' =>
    simp only [List.cons_append, List.append_assoc, List.nil_append] at eq
    obtain ⟨rfl, eq⟩ := List.cons.inj eq
    rcases List.append_eq_append_iff.1 eq with ⟨more, rfl, ends⟩ | ⟨more, rfl, ends⟩
    · cases more with
      | nil => simp at ends
      | cons d more =>
        obtain ⟨rfl, -⟩ := List.cons.inj ends
        exact inside (by simp)
    · have lengths := congrArg List.length ends
      simp only [List.length_append, List.length_cons, List.length_nil] at lengths
      omega

/-- Words, numbers and strings apart, tokens are operators. -/
theorem Spells.operator_of (h : Spells category text)
    (other : ¬(category = .word ∨ category = .number ∨ category = .string)) :
    (category, text) ∈ operatorTexts := by
  cases h with
  | operator listed => exact listed
  | _ => simp at other

/-- Slashes are not part of longer operators. -/
theorem operator_slash :
    (∀ entry ∈ operatorTexts, entry.2.head? = some '/' → entry.2.tail = [] ∧ entry.1 = .slash) ∧
      ∀ entry ∈ operatorTexts, entry.1 = .slash → entry.2 = ['/'] := by
  decide +kernel

/-- A longer token shows in the next character. -/
theorem goesOn_of_longer (spelled : Spells t.category t.text.toList)
    (beyond : Spells longer (t.text.toList ++ c :: rest)) : goesOn t c = true := by
  obtain ⟨first, others, text⟩ := List.exists_cons_of_ne_nil spelled.ne_nil
  have inside : c ∈ t.text.toList ++ c :: rest := by simp
  have same : longer = .word ∨ longer = .number ∨ longer = .string → t.category = longer := by
    rw [text] at spelled beyond
    exact spelled.category_eq beyond
  have same' : t.category = .word ∨ t.category = .number ∨ t.category = .string →
      longer = t.category := by
    rw [text] at spelled beyond
    exact beyond.category_eq spelled
  have number (h : longer = .number) : goesOn t c = true := by
    subst h
    have category := same (.inr (.inl rfl))
    simpa [goesOn, category] using number_part beyond inside
  -- the longer token is of the same class, unless it is an operator
  generalize eq : t.text.toList ++ c :: rest = whole at beyond inside
  cases beyond with
  | word start parts =>
    have category := same (.inl rfl)
    obtain ⟨_, _, _, _, all⟩ := (Spells.word start parts).word_head
    simpa [goesOn, category] using all c inside
  | decimal | hexadecimal => exact number rfl
  | string _ quote =>
    rw [same (.inr (.inr rfl))] at spelled
    exact absurd eq (string_not_over quote spelled)
  | operator listed =>
    obtain ⟨noWord, noNumber, noString⟩ := operator_category listed
    have front : (t.text.toList ++ [c]).isPrefixOf whole = true := by
      rw [List.isPrefixOf_iff_prefix, ← eq]
      exact ⟨rest, by simp⟩
    unfold goesOn
    split
    · next category => exact absurd ((same' (.inl category)).trans category) noWord
    · next category => exact absurd ((same' (.inr (.inl category))).trans category) noNumber
    · next category =>
      have slash : t.text.toList = ['/'] :=
        operator_slash.2 _ (spelled.operator_of (by simp [category])) category
      rw [slash] at eq
      subst eq
      cases (operator_slash.1 _ listed rfl).1
    · exact List.any_eq_true.2 ⟨_, listed, front⟩

/-! ## Tokens

Every token that some text has is read again where it stands in front of a character with which it
does not go on. The token of a single unknown character is included. -/

/-- What stands after a gap does not go on with it. -/
theorem splitGap_head (mode : GapMode) (text : List Char) :
    ∀ c ∈ (splitGap mode text).2.head?, isBlank c = false ∧ c ≠ '#' := by
  fun_induction splitGap mode text with
  | case5 c text _ _ noShell noBlank =>
    intro d inside
    obtain rfl : c = d := by simpa using inside
    exact ⟨by simpa using noBlank, noShell⟩
  | case9 => rintro c ⟨⟩
  | _ => assumption

/-- A token as it was read: a spelled one, or a character with which no token starts. -/
theorem IsToken.form (h : IsToken t) :
    (Spells t.category t.text.toList ∨ t.category = .other ∧
      ∃ c, t.text.toList = [c] ∧ ∀ spelled rest, ¬Spells spelled (c :: rest)) ∧
    ∀ c ∈ t.text.toList.head?, isBlank c = false ∧ c ≠ '#' := by
  obtain ⟨goesOn, text, inside⟩ := h
  obtain ⟨rest, rfl⟩ := mem_tokens inside
  refine ⟨?_, fun c first => splitGap_head .between rest c ?_⟩
  · rcases token_longest goesOn with ⟨spells, -⟩ | single
    · exact .inl spells
    · exact .inr single
  · rw [← token_append (splitGap .between rest).2, List.head?_append, first]
    rfl

/-- A text is a token of one category at most. -/
theorem Spells.unique (h : Spells category text) (h' : Spells longer text) : category = longer := by
  obtain ⟨c, rest, rfl⟩ := List.exists_cons_of_ne_nil h.ne_nil
  by_cases marked : longer = .word ∨ longer = .number ∨ longer = .string
  · exact h.category_eq h' marked
  by_cases marked' : category = .word ∨ category = .number ∨ category = .string
  · exact (h'.category_eq h marked').symm
  have unique : (operatorTexts.map (·.2)).Nodup := by decide +kernel
  have same := List.inj_on_of_nodup_map unique (h.operator_of marked') (h'.operator_of marked) rfl
  exact congrArg Prod.fst same

/-- A string that is closed is not left open. -/
theorem not_isOpenString (spells : Spells category front) : ¬IsOpenString (front ++ back) := by
  rintro ⟨quote, body, eq, quotes, inside⟩
  obtain ⟨c, rest, rfl⟩ := List.exists_cons_of_ne_nil spells.ne_nil
  obtain ⟨rfl, rfl⟩ := List.cons.inj eq
  obtain rfl := (category_of_startsLike spells.startsLike).2.2 quotes
  generalize shape : c :: rest = text at spells
  cases spells with
  | operator listed => exact absurd rfl (operator_category listed).2.2
  | string =>
    obtain ⟨rfl, rfl⟩ := List.cons.inj shape
    exact inside (by simp)

/-- The head of a text is read as a token of which nothing is missing and which does not go on. -/
theorem token_of_spells (spells : Spells t.category t.text.toList)
    (apart : ∀ c ∈ rest.head?, goesOn t c = false) :
    token (t.text.toList ++ rest) = (t, rest) := by
  have whole := token_append (t.text.toList ++ rest)
  have goesOn : (token (t.text.toList ++ rest)).1.category ≠ .eof := fun eof => by
    rcases token_eof_text eof with nil | open_
    · exact spells.ne_nil (List.append_eq_nil_iff.1 nil).1
    · exact not_isOpenString spells open_
  -- what is read is at least as long; if it were longer, the token would go on
  rcases token_longest goesOn with ⟨spelled, longest⟩ | ⟨-, c, single, unknown⟩
  · generalize token (t.text.toList ++ rest) = x at whole spelled longest
    have front : t.text.toList <+: t.text.toList ++ rest := List.prefix_append _ _
    have back : x.1.text.toList <+: t.text.toList ++ rest := whole ▸ List.prefix_append _ _
    obtain ⟨more, eq⟩ := List.prefix_of_prefix_length_le front back (longest _ _ spells front)
    rw [← eq, List.append_assoc] at whole
    obtain rfl := List.append_cancel_left whole
    have nothing : more = [] := by
      cases more with
      | nil => rfl
      | cons c more =>
        have beyond := goesOn_of_longer spells (eq ▸ spelled)
        rw [apart c rfl] at beyond
        cases beyond
    rw [nothing, List.append_nil] at eq
    obtain ⟨⟨category, text⟩, left⟩ := x
    obtain rfl : t.text = text := String.toList_inj.1 eq
    obtain rfl := spells.unique spelled
    rw [nothing]
    rfl
  · -- something starts with the character, which is the first one of the token
    obtain ⟨d, more, eq⟩ := List.exists_cons_of_ne_nil spells.ne_nil
    rw [single, eq] at whole
    obtain ⟨rfl, -⟩ := List.cons.inj whole
    exact absurd (eq ▸ spells) (unknown _ _)

/-- A character with which no token starts is a token of its own. -/
theorem token_of_unknown (category : t.category = .other) (single : t.text.toList = [c])
    (unknown : ∀ spelled rest, ¬Spells spelled (c :: rest)) :
    token (t.text.toList ++ rest) = (t, rest) := by
  have whole := token_append (t.text.toList ++ rest)
  have goesOn : (token (t.text.toList ++ rest)).1.category ≠ .eof := fun eof => by
    rcases token_eof_text eof with nil | ⟨quote, body, eq, quotes, -⟩
    · simp [single] at nil
    · rw [single] at eq
      obtain ⟨rfl, -⟩ := List.cons.inj eq
      have empty : c ∉ ([] : List Char) := List.not_mem_nil
      exact unknown .string [c] (Spells.string quotes empty)
  rcases token_longest goesOn with ⟨spelled, -⟩ | ⟨other, d, eq, -⟩
  · obtain ⟨d, more, eq⟩ := List.exists_cons_of_ne_nil spelled.ne_nil
    rw [eq, single] at whole
    obtain ⟨rfl, -⟩ := List.cons.inj whole
    exact absurd (eq ▸ spelled) (unknown _ _)
  · generalize token (t.text.toList ++ rest) = x at whole other eq
    rw [eq, single] at whole
    obtain ⟨rfl, rfl⟩ := List.cons.inj whole
    obtain ⟨⟨_, text⟩, left⟩ := x
    obtain rfl : t.text = text := String.toList_inj.1 (single.trans eq.symm)
    obtain rfl := category.trans other.symm
    rfl

/-- A slash in front of no further slash and no asterisk starts no comment. -/
theorem splitGap_slash (apart : ∀ c ∈ rest.head?, ['/', '*'].contains c = false) :
    splitGap .between ('/' :: rest) = ([], '/' :: rest) := by
  cases rest with
  | nil => rfl
  | cons c rest =>
    have noSlash : c ≠ '/' := by
      rintro rfl
      exact absurd (apart '/' rfl) (by decide)
    have noStar : c ≠ '*' := by
      rintro rfl
      exact absurd (apart '*' rfl) (by decide)
    rw [splitGap, if_neg (by decide), if_neg (by decide)]
    · exact fun _ _ eq => noSlash (List.cons.inj eq).1
    · exact fun _ _ eq => noStar (List.cons.inj eq).1

/-- No gap starts where a token stands that does not go on. -/
theorem IsToken.no_gap (h : IsToken t) (apart : ∀ c ∈ rest.head?, goesOn t c = false) :
    splitGap .between (t.text.toList ++ rest) = ([], t.text.toList ++ rest) := by
  obtain ⟨form, head⟩ := h.form
  have slash (more : List Char) (eq : t.text.toList = '/' :: more) :
      more = [] ∧ t.category = .slash := by
    rcases form with spells | ⟨-, c, single, unknown⟩
    · rw [eq] at spells
      exact operator_slash.1 _ (spells.listed (by decide) (by decide) (by decide)) rfl
    · obtain ⟨rfl, -⟩ := List.cons.inj (single.symm.trans eq)
      exact absurd (.operator (by decide +kernel)) (unknown .slash [])
  have nonempty : t.text.toList ≠ [] := by
    rcases form with spells | ⟨-, c, single, -⟩
    · exact spells.ne_nil
    · simp [single]
  obtain ⟨c, more, eq⟩ := List.exists_cons_of_ne_nil nonempty
  obtain ⟨blank, shell⟩ := head c (by rw [eq]; rfl)
  rw [eq]
  -- only a slash could start a comment
  by_cases here : c = '/'
  · subst here
    obtain ⟨rfl, category⟩ := slash more eq
    refine splitGap_slash fun d first => ?_
    have ends := apart d first
    rwa [goesOn, category] at ends
  · exact splitGap_of_solid ⟨blank, here, shell⟩ _

/-- A token is read where it does not go on. -/
theorem IsToken.readsAs (h : IsToken t) (apart : ∀ c ∈ rest.head?, goesOn t c = false) :
    ReadsAs t.text.toList [t] rest := by
  refine readsAs_of_token (h.no_gap apart) ?_ h.1
  rcases h.form.1 with spells | ⟨other, c, single, unknown⟩
  · exact token_of_spells spells apart
  · exact token_of_unknown other single unknown

/-- What is read in front of the end of a text are tokens. -/
theorem ReadsAs.isToken (h : ReadsAs text ts []) (inside : t ∈ ts) : IsToken t := by
  have read : tokens text = ts ++ [Token.endOfInput] := by
    rwa [ReadsAs, List.append_nil] at h
  obtain ⟨front, gap, rest, shape⟩ := scan_shape text
  obtain ⟨rfl, -⟩ := List.append_inj' (read.symm.trans shape.tokens_eq) rfl
  exact ⟨shape.not_eof t inside, text, read ▸ List.mem_append_left _ inside⟩

/-- A text that is spelled like a word is a token. -/
theorem isToken_word {word : String} (spelled : Spells .word word.toList) :
    IsToken ⟨.word, word⟩ :=
  (readsAs_word spelled breaks_nil.word).isToken List.mem_cons_self

/-- An operator of the table is a token. -/
theorem isToken_operator {text : String} (listed : (category, text) ∈ Category.operators) :
    IsToken ⟨category, text⟩ := by
  have table : ∀ entry ∈ Category.operators,
      tokens entry.2.toList = [⟨entry.1, entry.2⟩] ++ tokens [] := by
    decide +kernel
  have read : ReadsAs text.toList [⟨category, text⟩] [] := by
    have read := table (category, text) listed
    rwa [ReadsAs, List.append_nil]
  exact read.isToken List.mem_cons_self

/-- A text in which tokens are laid out has these tokens. -/
theorem tokens_of_laidOut (laid : LaidOut ts text) (each : ∀ t ∈ ts, IsToken t) :
    tokens text = ts ++ [Token.endOfInput] := by
  induction laid with
  | nil complete =>
    have read := tokens_of_isGap complete []
    rwa [List.append_nil] at read
  | cons complete apart more ih =>
    have read := (each _ List.mem_cons_self).readsAs apart
    rw [tokens_of_isGap complete, read, ih fun t inside => each t (List.mem_cons_of_mem _ inside)]
    rfl

end Lexer

end IdlCatalog
