/-
# IdlCatalog.Proofs.Token.Longest — every token is the longest one that starts where it stands

What a token may look like is said here once more, class by class and without reference to how a
text is split: `Spells` is the grammar of tokens. A token that was read is spelled like its category
says, and nothing longer at the head of the same text is spelled like any category. One character
with which no token starts is a token of its own.

Each splitting function takes as much as it can. So a proof that nothing is longer follows the
splitting: a candidate that goes on after a class of characters has taken all of the class.

`Spells` is written without the splitting functions on purpose. It is the specification against
which they are measured, so it must be possible to read it without them: which characters may start
a word, what a fraction looks like, which texts are operators.
-/
import IdlCatalog.Catalog.Library
import IdlCatalog.Proofs.Token.Gaps

namespace IdlCatalog

namespace Lexer

/-! ## The grammar of tokens

The parts of a number first, then one clause for each class of tokens. A hexadecimal number may have
no digits, an exponent must have some, and a string ends with the quote that it starts with. -/

/-- Nothing, or a point and any digits. -/
def IsFraction (part : List Char) : Prop :=
  part = [] ∨ ∃ digits, part = '.' :: digits ∧ ∀ d ∈ digits, isDecimalDigit d = true

/-- Nothing, or one of the two signs. -/
def IsSign (part : List Char) : Prop := part = [] ∨ part = ['+'] ∨ part = ['-']

/-- Nothing, or the letter `e` of either case, a sign that may be missing, and digits. -/
def IsExponent (part : List Char) : Prop :=
  part = [] ∨ ∃ letter sign digits, part = letter :: (sign ++ digits) ∧
    (letter = 'e' ∨ letter = 'E') ∧ IsSign sign ∧ digits ≠ [] ∧
    ∀ d ∈ digits, isDecimalDigit d = true

/-- Which texts are tokens of a category. -/
inductive Spells : Category → List Char → Prop
  | word {c : Char} {rest : List Char} (start : isWordStart c = true)
      (parts : ∀ d ∈ rest, isWordPart d = true) : Spells .word (c :: rest)
  | decimal {whole fraction exponent : List Char} (nonempty : whole ≠ [])
      (digits : ∀ d ∈ whole, isDecimalDigit d = true) (isFraction : IsFraction fraction)
      (isExponent : IsExponent exponent) : Spells .number (whole ++ (fraction ++ exponent))
  | hexadecimal {mark : Char} {digits : List Char} (marks : mark = 'x' ∨ mark = 'X')
      (all : ∀ d ∈ digits, isHexDigit d = true) : Spells .number ('0' :: mark :: digits)
  | string {quote : Char} {body : List Char} (quotes : quote = '"' ∨ quote = '\'')
      (inside : quote ∉ body) : Spells .string (quote :: (body ++ [quote]))
  | operator {category : Category} {text : List Char}
      (listed : (category, text) ∈ operatorTexts) : Spells category text

/-- The lexeme is a token of the category, and nothing at the head of the text that is a token is
longer; or it is one character with which no token starts. -/
def IsLongest (category : Category) (lexeme text : List Char) : Prop :=
  (Spells category lexeme ∧
      ∀ spelled longer, Spells spelled longer → longer <+: text →
        longer.length ≤ lexeme.length) ∨
    category = .other ∧ ∃ c, lexeme = [c] ∧ ∀ spelled rest, ¬Spells spelled (c :: rest)

/-! ## First characters

The first character decides between words, numbers, strings and operators: no two of them can start
alike. So a longer token at the head of the same text would be of the same class, and it is enough
to compare within a class. -/

/-- Whether a token of the category can start with the character. -/
def startsLike (category : Category) (c : Char) : Bool :=
  match category with
  | .word => isWordStart c
  | .number => isDecimalDigit c
  | .string => c = '"' || c = '\''
  | _ => !(isWordStart c || isDecimalDigit c || c = '"' || c = '\'')

/-- A token starts like its category says. -/
theorem Spells.startsLike {category : Category} {c : Char} {rest : List Char}
    (h : Spells category (c :: rest)) : startsLike category c = true := by
  generalize eq : c :: rest = text at h
  cases h with
  | word start =>
    obtain ⟨rfl, -⟩ := List.cons.inj eq
    exact start
  | @decimal whole _ _ nonempty digits =>
    obtain ⟨d, whole, rfl⟩ := List.exists_cons_of_ne_nil nonempty
    obtain ⟨rfl, -⟩ := List.cons.inj eq
    exact digits c List.mem_cons_self
  | hexadecimal =>
    obtain ⟨rfl, -⟩ := List.cons.inj eq
    rfl
  | string quotes =>
    obtain ⟨rfl, -⟩ := List.cons.inj eq
    simpa [Lexer.startsLike] using quotes
  | operator listed =>
    -- no operator starts like a word, a number or a string
    have table : ∀ entry ∈ operatorTexts,
        entry.2.head?.all (Lexer.startsLike entry.1) = true := by decide +kernel
    simpa [← eq] using table _ listed

/-- No token that is spelled like a category is empty. -/
theorem Spells.ne_nil {category : Category} {text : List Char} (h : Spells category text) :
    text ≠ [] := by
  cases h with
  | decimal nonempty => simp [nonempty]
  | operator listed =>
    have table : ∀ entry ∈ operatorTexts, entry.2 ≠ [] := by decide +kernel
    exact table _ listed
  | _ => simp

/-- Operators are no words, numbers or strings. -/
theorem operator_category {category : Category} {text : List Char}
    (h : (category, text) ∈ operatorTexts) :
    category ≠ .word ∧ category ≠ .number ∧ category ≠ .string := by
  have table : ∀ entry ∈ operatorTexts,
      entry.1 ≠ .word ∧ entry.1 ≠ .number ∧ entry.1 ≠ .string := by decide +kernel
  exact table _ h

/-- What a token that heads a text starts with. -/
theorem Spells.head {category : Category} {lexeme : List Char} {c : Char} {text : List Char}
    (h : Spells category lexeme) (front : lexeme <+: c :: text) :
    Lexer.startsLike category c = true := by
  obtain ⟨d, rest, rfl⟩ := List.exists_cons_of_ne_nil h.ne_nil
  obtain ⟨rfl, -⟩ := List.cons_prefix_cons.1 front
  exact h.startsLike

/-- No character starts both a word and a number, and a quote starts neither. -/
theorem wordStart_exclusive {c : Char} (h : isWordStart c = true) :
    isDecimalDigit c = false ∧ c ≠ '"' ∧ c ≠ '\'' := by
  refine ⟨?_, ?_, ?_⟩
  · simp only [isWordStart, isDecimalDigit, Bool.or_eq_true, Bool.and_eq_true, decide_eq_true_eq,
      Char.le_def, UInt32.le_iff_toNat_le, Bool.and_eq_false_iff, decide_eq_false_iff_not] at h ⊢
    rcases h with (⟨low, -⟩ | ⟨low, -⟩) | rfl
    · exact .inr fun high => absurd (low.trans high) (by decide)
    · exact .inr fun high => absurd (low.trans high) (by decide)
    · decide
  · rintro rfl
    exact absurd h (by decide)
  · rintro rfl
    exact absurd h (by decide)

/-- A token that heads a text is a word, a number or a string if the text starts like one. -/
theorem category_of_startsLike {category : Category} {c : Char}
    (h : startsLike category c = true) :
    (isWordStart c = true → category = .word) ∧
      (isDecimalDigit c = true → category = .number) ∧
      (c = '"' ∨ c = '\'' → category = .string) := by
  have quotes : c = '"' ∨ c = '\'' → isWordStart c = false ∧ isDecimalDigit c = false := by
    rintro (rfl | rfl) <;> decide
  -- the classes are told apart by their first characters
  unfold startsLike at h
  split at h
  · refine ⟨fun _ => rfl, fun digit => ?_, fun quote => ?_⟩
    · simp [(wordStart_exclusive h).1] at digit
    · simp [(quotes quote).1] at h
  · refine ⟨fun word => ?_, fun _ => rfl, fun quote => ?_⟩
    · simp [(wordStart_exclusive word).1] at h
    · simp [(quotes quote).2] at h
  · have quote : c = '"' ∨ c = '\'' := by simpa using h
    refine ⟨fun word => ?_, fun digit => ?_, fun _ => rfl⟩
    · simp [(quotes quote).1] at word
    · simp [(quotes quote).2] at digit
  · refine ⟨fun word => ?_, fun digit => ?_, fun quote => ?_⟩
    · simp [word] at h
    · simp [digit] at h
    · rcases quote with rfl | rfl <;> simp at h

/-- A token that starts like neither a word nor a number nor a string is an operator. -/
theorem Spells.listed {category : Category} {c : Char} {rest : List Char}
    (h : Spells category (c :: rest)) (noWord : ¬isWordStart c = true)
    (noDigit : ¬isDecimalDigit c = true) (noQuote : ¬(c = '"' ∨ c = '\'')) :
    (category, c :: rest) ∈ operatorTexts := by
  have starts := h.startsLike
  generalize c :: rest = text at h
  cases h with
  | word => exact absurd starts noWord
  | decimal | hexadecimal => exact absurd starts noDigit
  | string => exact absurd (by simpa [Lexer.startsLike] using starts) noQuote
  | operator listed => exact listed

/-! ## Taking as much as there is

The general fact about `splitWhile`: what starts with characters of the class takes all of them that
are there. -/

/-- A candidate whose first part consists of characters of a class, and whose second part does not
start with one, takes no more of the class than there is; and if it goes on, it took all. -/
theorem takes_all {p : Char → Bool} {xs ys text : List Char} (all : ∀ x ∈ xs, p x = true)
    (stops : ∀ d ∈ ys.head?, p d = false) (front : xs ++ ys <+: text) :
    xs.length ≤ (splitWhile p text).1.length ∧
      (ys ≠ [] → xs = (splitWhile p text).1 ∧ ys <+: (splitWhile p text).2) := by
  -- on the characters that are of the class
  induction xs generalizing text with
  | nil =>
    refine ⟨Nat.zero_le _, fun goesOn => ?_⟩
    obtain ⟨d, ys, rfl⟩ := List.exists_cons_of_ne_nil goesOn
    obtain ⟨rest, rfl⟩ := front
    have stop : p d = false := stops d rfl
    simp [splitWhile, stop]
  | cons x xs ih =>
    obtain ⟨rest, rfl⟩ := front
    have part : p x = true := all x List.mem_cons_self
    have front' : xs ++ ys <+: xs ++ ys ++ rest := List.prefix_append _ _
    obtain ⟨shorter, goesOn⟩ := ih (fun d inside => all d (List.mem_cons_of_mem _ inside)) front'
    simp only [splitWhile] at shorter goesOn
    simp only [splitWhile, List.cons_append, part, List.takeWhile_cons_of_pos,
      List.dropWhile_cons_of_pos, List.length_cons]
    exact ⟨Nat.succ_le_succ shorter, fun some => by
      obtain ⟨whole, later⟩ := goesOn some
      exact ⟨congrArg _ whole, later⟩⟩

/-- Characters of the class at the head of the text are taken. -/
theorem takes_most {p : Char → Bool} {xs text : List Char} (all : ∀ x ∈ xs, p x = true)
    (front : xs <+: text) : xs.length ≤ (splitWhile p text).1.length :=
  have front' : xs ++ [] <+: text := by rwa [List.append_nil]
  (takes_all all (by simp) front').1

/-- Only characters of the class are taken. -/
theorem splitWhile_all {p : Char → Bool} {text : List Char} :
    ∀ c ∈ (splitWhile p text).1, p c = true :=
  fun _ inside => List.mem_takeWhile_imp inside

/-! ## Numbers

A number has three parts. A longer candidate is compared part by part: its whole part is taken
completely, then its fraction, then its exponent. Where the letter of an exponent is not followed by
a digit it belongs to the next word, in the candidate as in the text. -/

/-- What is split off as a fraction is one. -/
theorem splitFraction_isFraction (text : List Char) : IsFraction (splitFraction text).1 := by
  fun_cases splitFraction text with
  | case1 text => exact .inr ⟨_, rfl, splitWhile_all⟩
  | case2 => exact .inl rfl

/-- What is split off as a sign is one. -/
theorem splitSign_isSign (text : List Char) : IsSign (splitSign text).1 := by
  fun_cases splitSign text with
  | case1 c text sign => exact .inr (by simpa using sign)
  | _ => exact .inl rfl

/-- What is split off as an exponent is one. -/
theorem splitExponent_isExponent (text : List Char) : IsExponent (splitExponent text).1 := by
  fun_cases splitExponent text with
  | case2 c text letter sign digits some =>
    exact .inr ⟨c, sign.1, digits.1, rfl, by simpa using letter, splitSign_isSign text, some,
      splitWhile_all⟩
  | _ => exact .inl rfl

/-- What is split off at a digit is a decimal number. -/
theorem splitDecimal_spells {c : Char} {text : List Char} (h : isDecimalDigit c = true) :
    Spells .number (splitDecimal (c :: text)).1 := by
  simp only [splitDecimal, prepend]
  exact .decimal (splitWhile_ne_nil text h) splitWhile_all (splitFraction_isFraction _)
    (splitExponent_isExponent _)

/-- What is split off at a digit is a number. -/
theorem splitNumber_spells {c : Char} {text : List Char} (h : isDecimalDigit c = true) :
    Spells .number (splitNumber (c :: text)).1 := by
  unfold splitNumber
  split
  · next mark text eq =>
    split
    · next marks => exact .hexadecimal (by simpa using marks) splitWhile_all
    · exact splitDecimal_spells (by decide)
  · exact splitDecimal_spells h

/-- An exponent starts with neither a digit nor a point. -/
theorem IsExponent.head {part : List Char} (h : IsExponent part) :
    ∀ d ∈ part.head?, isDecimalDigit d = false ∧ d ≠ '.' := by
  rcases h with rfl | ⟨letter, sign, digits, rfl, rfl | rfl, -⟩
  · simp
  · simpa using by decide
  · simpa using by decide

/-- No fraction is longer than the one that is taken. -/
theorem fraction_longest {fraction exponent text : List Char} (h : IsFraction fraction)
    (isExponent : IsExponent exponent) (front : fraction ++ exponent <+: text) :
    fraction.length ≤ (splitFraction text).1.length ∧
      (exponent ≠ [] →
        fraction = (splitFraction text).1 ∧ exponent <+: (splitFraction text).2) := by
  rcases h with rfl | ⟨digits, rfl, all⟩
  · refine ⟨Nat.zero_le _, fun some => ?_⟩
    obtain ⟨letter, rest, rfl⟩ := List.exists_cons_of_ne_nil some
    obtain ⟨more, rfl⟩ := front
    have point : letter ≠ '.' := (isExponent.head letter rfl).2
    have none : splitFraction (letter :: (rest ++ more)) = ([], letter :: (rest ++ more)) := by
      rw [splitFraction]
      exact fun _ eq => point (List.cons.inj eq).1
    simp [none]
  · obtain ⟨more, rfl⟩ := front
    obtain ⟨shorter, goesOn⟩ :=
      takes_all all (fun d first => (isExponent.head d first).1)
        (List.prefix_append (digits ++ exponent) more)
    simp only [List.cons_append, splitFraction, prepend, List.length_cons, List.nil_append]
    exact ⟨Nat.succ_le_succ shorter, fun some => by
      obtain ⟨whole, later⟩ := goesOn some
      exact ⟨congrArg _ whole, later⟩⟩

/-- The sign in front of digits is the one that is taken. -/
theorem sign_longest {sign digits text : List Char} (h : IsSign sign) (some : digits ≠ [])
    (all : ∀ d ∈ digits, isDecimalDigit d = true) (front : sign ++ digits <+: text) :
    sign = (splitSign text).1 ∧ digits <+: (splitSign text).2 := by
  obtain ⟨d, digits, rfl⟩ := List.exists_cons_of_ne_nil some
  obtain ⟨rest, rfl⟩ := front
  have unsigned : (d = '+' || d = '-') = false := by
    have digit : isDecimalDigit d = true := all d List.mem_cons_self
    simp only [Bool.or_eq_false_iff, decide_eq_false_iff_not]
    constructor <;> (rintro rfl; exact absurd digit (by decide))
  rcases h with rfl | rfl | rfl
  · simp only [List.nil_append, List.cons_append, splitSign, unsigned]
    exact ⟨rfl, List.prefix_append (d :: digits) rest⟩
  · simp [splitSign]
  · simp [splitSign]

/-- No exponent is longer than the one that is taken. -/
theorem exponent_longest {exponent text : List Char} (h : IsExponent exponent)
    (front : exponent <+: text) : exponent.length ≤ (splitExponent text).1.length := by
  rcases h with rfl | ⟨letter, sign, digits, rfl, letters, isSign, some, all⟩
  · exact Nat.zero_le _
  · obtain ⟨rest, rfl⟩ := front
    obtain ⟨same, later⟩ := sign_longest isSign some all (List.prefix_append (sign ++ digits) rest)
    have shorter := takes_most all later
    have taken : (splitWhile isDecimalDigit (splitSign (sign ++ digits ++ rest)).2).1 ≠ [] := by
      have := List.length_pos_iff.2 some
      exact List.ne_nil_of_length_pos (by omega)
    have letter' : (letter = 'e' || letter = 'E') = true := by simpa using letters
    simp only [List.cons_append, splitExponent, letter', if_true, if_neg taken, List.length_cons,
      List.length_append]
    rw [← same]
    omega

/-- No decimal number is longer than the one that is taken. -/
theorem decimal_longest {whole fraction exponent text : List Char}
    (digits : ∀ d ∈ whole, isDecimalDigit d = true) (isFraction : IsFraction fraction)
    (isExponent : IsExponent exponent) (front : whole ++ (fraction ++ exponent) <+: text) :
    (whole ++ (fraction ++ exponent)).length ≤ (splitDecimal text).1.length := by
  have stops : ∀ d ∈ (fraction ++ exponent).head?, isDecimalDigit d = false := by
    rcases isFraction with rfl | ⟨_, rfl, -⟩
    · exact fun d first => (isExponent.head d first).1
    · simpa using by decide
  obtain ⟨first, later⟩ := takes_all digits stops front
  simp only [splitDecimal, prepend, List.length_append]
  -- part by part: what is over when one part ends begins the next one
  by_cases ends : fraction ++ exponent = []
  · obtain ⟨rfl, rfl⟩ := List.append_eq_nil_iff.1 ends
    simp only [List.length_nil]
    omega
  obtain ⟨-, afterWhole⟩ := later ends
  obtain ⟨second, later⟩ := fraction_longest isFraction isExponent afterWhole
  by_cases ends : exponent = []
  · subst ends
    simp only [List.length_nil]
    omega
  have third := exponent_longest isExponent (later ends).2
  omega

/-- The mark of a hexadecimal number ends a decimal one. -/
theorem splitDecimal_marked {mark : Char} (marks : mark = 'x' ∨ mark = 'X') (text : List Char) :
    (splitDecimal ('0' :: mark :: text)).1 = ['0'] := by
  rcases marks with rfl | rfl <;> rfl

/-- No number is longer than the one that is taken. -/
theorem number_longest {text longer : List Char} (h : Spells .number longer)
    (front : longer <+: text) : longer.length ≤ (splitNumber text).1.length := by
  cases h with
  | operator listed => exact absurd rfl (operator_category listed).2.1
  | decimal _ digits isFraction isExponent =>
    have shorter := decimal_longest digits isFraction isExponent front
    fun_cases splitNumber text with
    | case1 mark text marks =>
      rw [splitDecimal_marked (by simpa using marks)] at shorter
      exact shorter.trans (by simp [prepend])
    | _ => exact shorter
  | @hexadecimal mark digits marks all =>
    obtain ⟨rest, rfl⟩ := front
    have marked : (mark = 'x' || mark = 'X') = true := by simpa using marks
    have most := takes_most all (List.prefix_append digits rest)
    simpa [splitNumber, marks, prepend] using most

/-! ## Strings

There is one string at a quote at most, up to the next quote of its kind. -/

/-- The next quote of the same kind ends a string. -/
theorem splitString_some {quote : Char} {text : List Char} {split : List Char × List Char}
    (h : splitString quote text = some split) :
    split.1 = quote :: ((splitWhile (· ≠ quote) text).1 ++ [quote]) := by
  simp only [splitString] at h
  split at h
  · simp at h
  · next close rest body =>
    obtain rfl := Option.some.inj h
    have closes : close = quote := by
      have stop := List.head?_dropWhile_not (fun c => decide (c ≠ quote)) text
      have rest : text.dropWhile (fun c => decide (c ≠ quote)) = close :: rest := body
      rw [rest] at stop
      simpa using stop
    rw [closes]

/-- What is split off at a quote is a string. -/
theorem splitString_spells {quote : Char} {text : List Char} {split : List Char × List Char}
    (quotes : quote = '"' ∨ quote = '\'') (h : splitString quote text = some split) :
    Spells .string split.1 := by
  rw [splitString_some h]
  refine .string quotes fun inside => ?_
  simpa using splitWhile_all (p := (· ≠ quote)) quote inside

/-- No string is longer than the one that is taken. -/
theorem string_longest {quote : Char} {text longer : List Char} {split : List Char × List Char}
    (h : splitString quote text = some split) (spells : Spells .string longer)
    (front : longer <+: quote :: text) : longer.length ≤ split.1.length := by
  cases spells with
  | operator listed => exact absurd rfl (operator_category listed).2.2
  | @string opening body _ inside =>
    obtain ⟨rfl, rest⟩ := List.cons_prefix_cons.1 front
    have other : ∀ d ∈ body, decide (d ≠ opening) = true := fun d found => by
      simpa using fun same : d = opening => inside (same ▸ found)
    have stops : ∀ d ∈ [opening].head?, decide (d ≠ opening) = false := by simp
    have most := (takes_all other stops rest).1
    simpa [splitString_some h] using most

/-! ## Operators

The table of operators is searched from the longest to the shortest, so the first hit is the longest
one. -/

/-- An operator that was found is longer than every other at the head of the text. -/
theorem operator_longest {category : Category} {text lexeme longer : List Char}
    (h : operator? text = some (category, lexeme)) {spelled : Category}
    (listed : (spelled, longer) ∈ operatorTexts) (front : longer <+: text) :
    longer.length ≤ lexeme.length := by
  have sorted : operatorTexts.Pairwise fun long short => short.2.length ≤ long.2.length := by
    decide +kernel
  obtain ⟨-, before, after, split, skipped⟩ := List.find?_eq_some_iff_append.1 h
  rw [split] at listed sorted
  rcases List.mem_append.1 listed with earlier | later
  · have passed := skipped _ earlier
    simp [List.isPrefixOf_iff_prefix.2 front] at passed
  · obtain ⟨-, sorted, -⟩ := List.pairwise_append.1 sorted
    rcases List.mem_cons.1 later with same | later
    · exact (congrArg (·.2.length) same).le
    · exact (List.pairwise_cons.1 sorted).1 _ later

/-- The first character of an operator is an operator itself. -/
theorem operator_head {category : Category} {c : Char} {rest : List Char}
    (listed : (category, c :: rest) ∈ operatorTexts) (text : List Char) :
    operator? (c :: text) ≠ none := by
  have table : ∀ entry ∈ operatorTexts,
      entry.2.head?.all fun c => operatorTexts.any fun short => short.2 = [c] := by
    decide +kernel
  have single : operatorTexts.any fun short => short.2 = [c] := by simpa using table _ listed
  obtain ⟨short, found, eq⟩ := List.any_eq_true.1 single
  rw [decide_eq_true_eq] at eq
  intro none
  have skipped := List.find?_eq_none.1 none short found
  simp [eq] at skipped

/-! ## One token

The classes are put together: what the lexer takes is spelled like its category, and nothing longer
is spelled like any. -/

/-- A token that does not end the stream is the longest at the head of the text. -/
theorem token_longest {text : List Char} (h : (token text).1.category ≠ .eof) :
    IsLongest (token text).1.category (token text).1.text.toList text := by
  revert h
  -- one case for each class of tokens, and one where no token starts
  fun_cases token text with
  | case1 => exact fun h => absurd rfl h
  | case2 c text start word =>
    have part : isWordPart c = true := by simp [isWordPart, start]
    have taken : word.1 = c :: (splitWhile isWordPart text).1 := by simp [word, splitWhile, part]
    refine fun _ => .inl ⟨?_, fun spelled longer spells front => ?_⟩
    · simpa [taken] using Spells.word start splitWhile_all
    · obtain rfl := (category_of_startsLike (spells.head front)).1 start
      cases spells with
      | operator listed => exact absurd rfl (operator_category listed).1
      | word _ parts =>
        have rest := (List.cons_prefix_cons.1 front).2
        simpa [taken] using takes_most parts rest
  | case3 c text _ start number =>
    refine fun _ => .inl ⟨?_, fun spelled longer spells front => ?_⟩
    · simpa using splitNumber_spells start
    · obtain rfl := (category_of_startsLike (spells.head front)).2.1 start
      simpa using number_longest spells front
  | case4 c text _ _ quote quoted found =>
    have quote : c = '"' ∨ c = '\'' := by simpa using quote
    refine fun _ => .inl ⟨?_, fun spelled longer spells front => ?_⟩
    · simpa using splitString_spells quote found
    · obtain rfl := (category_of_startsLike (spells.head front)).2.2 quote
      simpa using string_longest found spells front
  | case5 => exact fun h => absurd rfl h
  | case6 c text noWord noDigit noQuote category lexeme found =>
    refine fun _ => .inl ⟨?_, fun spelled longer spells front => ?_⟩
    · simpa using Spells.operator (List.mem_of_find?_eq_some found)
    · obtain ⟨d, rest, rfl⟩ := List.exists_cons_of_ne_nil spells.ne_nil
      obtain ⟨rfl, -⟩ := List.cons_prefix_cons.1 front
      have listed := spells.listed noWord noDigit (by simpa using noQuote)
      simpa using operator_longest found listed front
  | case7 c text noWord noDigit noQuote none =>
    refine fun _ => .inr ⟨rfl, c, by simp, fun spelled rest spells => ?_⟩
    have listed := spells.listed noWord noDigit (by simpa using noQuote)
    exact operator_head listed text none

/-- The words of a text are spelled like words. -/
theorem tokens_spells {text : List Char} {t : Token} (h : t ∈ tokens text)
    (word : t.category = .word) : Spells .word t.text.toList := by
  obtain ⟨rest, rfl⟩ := mem_tokens h
  rcases token_longest (by rw [word]; decide) with ⟨spells, -⟩ | ⟨other, -⟩
  · rwa [word] at spells
  · rw [word] at other
    cases other

/-- A word starts like one, and goes on like one. -/
theorem Spells.word_head {text : List Char} (h : Spells .word text) :
    ∃ c rest, text = c :: rest ∧ isWordStart c = true ∧ ∀ d ∈ text, isWordPart d = true := by
  generalize eq : Category.word = category at h
  cases h with
  | operator listed => exact absurd eq.symm (operator_category listed).1
  | @word c rest start parts =>
    refine ⟨c, rest, rfl, start, fun d inside => ?_⟩
    rcases List.mem_cons.1 inside with rfl | later
    · simp [isWordPart, start]
    · exact parts d later
  | _ => cases eq

/-- A word starts with a letter or an underscore, so no word is the name of the globals. -/
theorem word_ne_globalsName {name : String} (spelled : Spells .word name.toList) :
    name ≠ globalsName := by
  obtain ⟨c, more, eq, start, -⟩ := spelled.word_head
  intro globals
  rw [globals] at eq
  obtain ⟨rfl, -⟩ : '(' = c ∧ _ := List.cons.inj eq
  exact absurd start (by decide)

end Lexer

end IdlCatalog
