import Concordance.Json.Token
import Concordance.Proofs.Json.Numbers
import Mathlib.Data.List.Chain

/-!
# Tokens that are written are read back

The machine reads the text of one token and stands between tokens again. A string or
a punctuation mark says itself where it ends. A word or a number ends where a
character follows that it cannot go on with, so two of them may not stand side by
side.

* `Lexer.run`: reading on from a state to the end of the text.
* `Lexer.run_write`: one token is read from its text.
* `tokens?_write`: a list of tokens is read from its text.
-/

namespace Concordance.Json

/-! ## The parts of a string -/

/-- The part that the text of `c` is read as: a control without a letter of its own is
written by its number, all else as a character. -/
def Part.ofChar (c : Char) : Part :=
  if c < ' ' ∧ c ∉ ['\x08', '\x0c', '\n', '\r', '\t'] then .unit c.toNat else .char c

theorem toNat_lt_of_control {c : Char} (h : c < ' ') : c.toNat < 32 := UInt32.lt_iff_toNat_lt.mp h

/-- A part that stands for a character adds that character, whatever follows it: no
control is half of a surrogate pair. -/
theorem join_ofChar (c : Char) (parts : List Part) :
    join (.ofChar c :: parts) = (join parts).map (c :: ·) := by
  rw [Part.ofChar]
  split
  · next control =>
    have small := toNat_lt_of_control control.1
    have noHigh : isHighSurrogate c.toNat = false := by
      simp only [isHighSurrogate, Bool.and_eq_false_iff, decide_eq_false_iff_not]
      omega
    have noLow : isLowSurrogate c.toNat = false := by
      simp only [isLowSurrogate, Bool.and_eq_false_iff, decide_eq_false_iff_not]
      omega
    rw [join.eq_def]
    simp only [noHigh, noLow, Bool.false_eq_true, if_false, Char.ofNat_toNat]
  · rfl

theorem join_map_ofChar (text : List Char) : join (text.map .ofChar) = some text := by
  induction text with
  | nil => rfl
  | cons c rest ih => rw [List.map_cons, join_ofChar, ih, Option.map_some]

theorem hexDigit?_digitChar {k : Nat} (h : k < 16) : hexDigit? (Nat.digitChar k) = some k := by
  have all : ∀ k < 16, hexDigit? (Nat.digitChar k) = some k := by decide
  exact all k h

/-! ## Reading on -/

namespace Lexer

/-- The tokens of a text, backwards and after those that were read before it, when the
reading stands at `l`. -/
def run (l : Lexer) (text : List Char) : Option (List Token) := (text.foldlM step l).bind close

@[simp] theorem run_nil (l : Lexer) : l.run [] = l.close := rfl

@[simp] theorem run_cons (l : Lexer) (c : Char) (rest : List Char) :
    l.run (c :: rest) = (l.step c).bind (·.run rest) := by
  simp only [run, List.foldlM_cons, Option.bind_eq_bind, Option.bind_assoc]

theorem tokens?_eq (text : List Char) : tokens? text = (run ⟨.between, []⟩ text).map List.reverse := by
  simp only [tokens?, run, Option.bind_eq_bind, Option.pure_def, Option.bind_assoc,
    Option.map_eq_bind, Function.comp_def]

variable {acc : List Token} {rest : List Char}

/-- A word or a number that cannot go on ends in front of the next character. -/
theorem run_of_close {l : Lexer} (closed : l.close = some acc)
    (ends : ∀ c ∈ rest.head?, l.step c = l.close.bind (begin · c)) :
    l.run rest = run ⟨.between, acc⟩ rest := by
  cases rest with
  | nil => exact closed
  | cons c rest => rw [run_cons, run_cons, ends c rfl, closed, Option.bind_some, step]

/-! ## Strings -/

/-- One character of a string is read from its text. -/
theorem run_char (c : Char) (parts : List Part) :
    run ⟨.string parts, acc⟩ (escape c ++ rest) = run ⟨.string (.ofChar c :: parts), acc⟩ rest := by
  unfold escape
  split
  -- The escapes of one letter, then the other characters.
  iterate 7 rfl
  · next quote backslash b f n r t =>
    have unnamed : c ∉ ['\x08', '\x0c', '\n', '\r', '\t'] := by
      simp only [List.mem_cons, List.not_mem_nil, or_false, not_or]
      exact ⟨b, f, n, r, t⟩
    split
    · next control =>
      have small := toNat_lt_of_control control
      have high := hexDigit?_digitChar (show c.toNat / 16 < 16 by omega)
      have low := hexDigit?_digitChar (show c.toNat % 16 < 16 by omega)
      have zero : hexDigit? '0' = some 0 := by decide
      have value : 16 * (c.toNat / 16) + c.toNat % 16 = c.toNat := Nat.div_add_mod _ _
      simp [step, high, low, zero, value, Part.ofChar, control, unnamed]
    · next printable =>
      have noQuote : ¬ c = '"' := quote
      have noBackslash : ¬ c = '\\' := backslash
      simp [step, noQuote, noBackslash, printable, Part.ofChar]

theorem run_chars (text : List Char) (parts : List Part) :
    run ⟨.string parts, acc⟩ (text.flatMap escape ++ rest) =
      run ⟨.string ((text.map .ofChar).reverse ++ parts), acc⟩ rest := by
  induction text generalizing parts with
  | nil => rfl
  | cons c text ih =>
    rw [List.flatMap_cons, List.append_assoc, run_char, ih, List.map_cons, List.reverse_cons,
      List.append_assoc, List.singleton_append]

theorem run_string (s : Text) :
    run ⟨.between, acc⟩ ((Token.string s).write ++ rest) = run ⟨.between, .string s :: acc⟩ rest := by
  cases s with
  | none => rfl
  | some s =>
    have opened : step ⟨.between, acc⟩ '"' = some ⟨.string [], acc⟩ := rfl
    have closed (parts : List Part) : step ⟨.string parts, acc⟩ '"' =
      some ⟨.between, .string ((join parts.reverse).map String.ofList) :: acc⟩ := rfl
    rw [Token.write, List.cons_append, List.cons_append, run_cons, opened, Option.bind_some,
      List.append_assoc, run_chars, List.append_nil, List.singleton_append, run_cons, closed,
      Option.bind_some, List.reverse_reverse, join_map_ofChar, Option.map_some,
      String.ofList_toList]

/-! ## Words and numbers -/

/-- Whether the text cannot go on with a word or a number. -/
def Ends (text : List Char) : Prop :=
  ∀ c ∈ text.head?, isLetter c = false ∧ isNumberChar c = false

theorem run_word {letters : List Char} {t : Token} (word : word? letters.reverse = some t)
    (ends : Ends rest) : run ⟨.word letters, acc⟩ rest = run ⟨.between, t :: acc⟩ rest := by
  refine run_of_close (by simp only [close, word, Option.map_some]) fun c next => ?_
  simp only [step, (ends c next).1, Bool.false_eq_true, if_false]

theorem run_number {n : Number} {chars : List Char} (read : Number.read? chars.reverse = some n)
    (ends : Ends rest) : run ⟨.number chars, acc⟩ rest = run ⟨.between, .number n :: acc⟩ rest := by
  refine run_of_close (by simp only [close, read, Option.map_some]) fun c next => ?_
  simp only [step, (ends c next).2, Bool.false_eq_true, if_false]

theorem run_numberChars (chars text : List Char) (h : ∀ c ∈ text, isNumberChar c = true) :
    run ⟨.number chars, acc⟩ (text ++ rest) = run ⟨.number (text.reverse ++ chars), acc⟩ rest := by
  induction text generalizing chars with
  | nil => rfl
  | cons c text ih =>
    have next : step ⟨.number chars, acc⟩ c = some ⟨.number (c :: chars), acc⟩ :=
      if_pos (h c List.mem_cons_self)
    rw [List.cons_append, run_cons, next, Option.bind_some,
      ih _ fun d hd => h d (List.mem_cons_of_mem _ hd), List.reverse_cons, List.append_assoc,
      List.singleton_append]

end Lexer

theorem isNumberChar_of_isDigit {c : Char} (h : Number.isDigit c = true) : isNumberChar c = true := by
  simp only [isNumberChar, h, Bool.true_or]

theorem isNumberChar_of_mem_write {n : Number} (h : n.Proper) {c : Char} (hc : c ∈ n.write) :
    isNumberChar c = true := by
  rw [Number.write_eq] at hc
  simp only [List.mem_append] at hc
  obtain sign | digit | fraction | exponent := hc
  · split at sign
    · rw [List.mem_singleton.mp sign]
      rfl
    · cases sign
  · exact isNumberChar_of_isDigit (Number.isDigit_of_mem_digits digit)
  · obtain rfl | digit := Number.mem_writeFraction fraction
    · rfl
    · exact isNumberChar_of_isDigit (h c digit)
  · obtain rfl | rfl | digit := Number.mem_writeExponent exponent
    · rfl
    · rfl
    · exact isNumberChar_of_isDigit digit

/-- A number begins with its sign or with a digit. -/
theorem exists_write_eq (n : Number) :
    ∃ c rest, n.write = c :: rest ∧ (c = '-' ∨ Number.isDigit c = true) := by
  obtain ⟨c, rest, eq⟩ := List.exists_cons_of_ne_nil (Number.digits_ne_nil n.whole)
  have digit : Number.isDigit c = true := Number.isDigit_of_mem_digits (eq ▸ List.mem_cons_self)
  rw [Number.write_eq, eq]
  cases n.negative with
  | true => exact ⟨_, _, rfl, .inl rfl⟩
  | false => exact ⟨_, _, rfl, .inr digit⟩

/-- What begins a number begins nothing else. -/
theorem begin_number {c : Char} (h : c = '-' ∨ Number.isDigit c = true) (tokens : List Token) :
    Lexer.begin tokens c = some ⟨.number [c], tokens⟩ := by
  obtain rfl | digit := h
  · rfl
  · have range : '0' ≤ c ∧ c ≤ '9' := by
      simpa [Number.isDigit, Decimal.digit?] using digit
    have noSpace : isSpace c = false := by
      simp only [isSpace, Bool.or_eq_false_iff, beq_eq_false_iff_ne]
      refine ⟨⟨⟨?_, ?_⟩, ?_⟩, ?_⟩ <;>
        · rintro rfl
          exact absurd digit (by decide)
    have noQuote : c ≠ '"' := by
      rintro rfl
      exact absurd digit (by decide)
    have noLetter : isLetter c = false := by
      have : ¬ 'a' ≤ c := fun h => absurd (Char.le_trans h range.2) (by decide)
      simp only [isLetter, this, decide_false, Bool.false_and]
    simp only [Lexer.begin, noSpace, noQuote, noLetter, isNumberChar_of_isDigit digit,
      Bool.false_eq_true, if_false, if_true]

/-! ## Tokens -/

/-- Whether the token goes on until something else begins. -/
def Token.isOpen : Token → Bool
  | .null | .bool _ | .number _ => true
  | _ => false

/-- Two tokens that can be told apart when they stand side by side. -/
def Token.Apart (t u : Token) : Prop := t.isOpen = true → u.isOpen = false

/-- A token whose text says what it is. -/
def Token.Proper : Token → Prop
  | .number n => n.Proper
  | _ => True

/-- Tokens that are read from their texts, written without space between them. -/
structure Legible (ts : List Token) : Prop where
  proper : ∀ t ∈ ts, t.Proper
  apart : ts.IsChain Token.Apart

theorem legible_singleton {t : Token} (h : t.Proper) : Legible [t] :=
  ⟨fun _ ht => List.mem_singleton.mp ht ▸ h, .singleton t⟩

/-- A token that is no word and no number can stand in front of anything. -/
theorem Legible.cons {t : Token} {ts : List Token} (h : Legible ts) (proper : t.Proper)
    (closed : t.isOpen = false) : Legible (t :: ts) where
  proper := by
    rintro u (_ | ⟨_, hu⟩)
    · exact proper
    · exact h.proper u hu
  apart := List.isChain_cons.mpr ⟨fun _ _ isOpen => absurd (closed ▸ isOpen) (by decide), h.apart⟩

/-- What begins with neither a word nor a number can stand behind anything. -/
theorem Legible.append {ts us : List Token} (h : Legible ts) (h' : Legible us)
    (closed : ∀ u ∈ us.head?, u.isOpen = false) : Legible (ts ++ us) where
  proper t ht := (List.mem_append.mp ht).elim (h.proper t) (h'.proper t)
  apart := List.isChain_append.mpr ⟨h.apart, h'.apart, fun _ _ u hu _ => closed u hu⟩

namespace Lexer

variable {acc : List Token} {rest : List Char}

/-- What is no word and no number begins with a character that belongs to neither. -/
theorem ends_write {t : Token} (h : t.isOpen = false) : Ends (t.write ++ rest) := by
  intro c first
  cases t with
  | openArray | closeArray | openObject | closeObject | colon | comma =>
    obtain rfl := Option.some.inj first
    decide
  | string s =>
    cases s <;>
      · obtain rfl := Option.some.inj first
        decide
  | null | bool | number => cases h

/-- One token is read from its text. -/
theorem run_write {t : Token} (h : t.Proper) (ends : t.isOpen = true → Ends rest) :
    run ⟨.between, acc⟩ (t.write ++ rest) = run ⟨.between, t :: acc⟩ rest := by
  cases t with
  | openArray | closeArray | openObject | closeObject | colon | comma => rfl
  | string s => exact run_string s
  | null =>
    have read : run ⟨.between, acc⟩ (Token.null.write ++ rest) =
      run ⟨.word ['l', 'l', 'u', 'n'], acc⟩ rest := rfl
    rw [read, run_word rfl (ends rfl)]
  | bool b =>
    cases b with
    | true =>
      have read : run ⟨.between, acc⟩ ((Token.bool true).write ++ rest) =
        run ⟨.word ['e', 'u', 'r', 't'], acc⟩ rest := rfl
      rw [read, run_word rfl (ends rfl)]
    | false =>
      have read : run ⟨.between, acc⟩ ((Token.bool false).write ++ rest) =
        run ⟨.word ['e', 's', 'l', 'a', 'f'], acc⟩ rest := rfl
      rw [read, run_word rfl (ends rfl)]
  | number n =>
    obtain ⟨c, chars, eq, first⟩ := exists_write_eq n
    have inside : ∀ d ∈ chars, isNumberChar d = true := fun d hd =>
      isNumberChar_of_mem_write h (eq ▸ List.mem_cons_of_mem _ hd)
    have read : Number.read? (chars.reverse ++ [c]).reverse = some n := by
      rw [List.reverse_append, List.reverse_reverse, List.reverse_singleton, List.singleton_append,
        ← eq, Number.read?_write h]
    rw [Token.write, eq, List.cons_append, run_cons, step, begin_number first, Option.bind_some,
      run_numberChars _ _ inside, run_number read (ends rfl)]

theorem run_flatMap_write {ts : List Token} (h : Legible ts) :
    run ⟨.between, acc⟩ (ts.flatMap Token.write) = some (ts.reverse ++ acc) := by
  induction ts generalizing acc with
  | nil => rfl
  | cons t ts ih =>
    have rest : Legible ts := ⟨fun u hu => h.proper u (List.mem_cons_of_mem _ hu), h.apart.tail⟩
    have ends (isOpen : t.isOpen = true) : Ends (ts.flatMap Token.write) := by
      cases ts with
      | nil => exact fun _ none => nomatch none
      | cons u us => exact ends_write ((List.isChain_cons_cons.mp h.apart).1 isOpen)
    rw [List.flatMap_cons, run_write (h.proper t List.mem_cons_self) ends, ih rest,
      List.reverse_cons, List.append_assoc, List.singleton_append]

end Lexer

/-- Tokens are read from their texts. -/
theorem tokens?_write {ts : List Token} (h : Legible ts) :
    tokens? (ts.flatMap Token.write) = some ts := by
  rw [Lexer.tokens?_eq, Lexer.run_flatMap_write h, Option.map_some, List.append_nil,
    List.reverse_reverse]

end Concordance.Json
