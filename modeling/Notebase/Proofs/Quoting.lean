import Notebase.Proofs.NameScalar
import Notebase.Proofs.Text.Fence

/-!
The two layers of quoting. A value is escaped inside the string of an expression, and an expression
stands inside quotes in the document. Each layer can be undone whatever was written: the mark that
closes a string or a scalar is the first one that is not escaped, and what stands before it says the
value (`quoting_is_undone`).
-/

namespace Notebase

open Document

/-! ### Scalars in quotes -/

/-- What a single-quoted scalar says after its opening mark, if it closes at the end of the text. Two
marks are one mark of what is said, and one alone closes the scalar. -/
def pairedBody? : Text → Option Text
  | [] => none
  | '\'' :: '\'' :: t => (pairedBody? t).map ('\'' :: ·)
  | '\'' :: t => if t.isEmpty then some [] else none
  | c :: t => (pairedBody? t).map (c :: ·)

def quoted? : Text → Option Text
  | '\'' :: t => pairedBody? t
  | t => scalar? t

/-- The inside of a single-quoted scalar. Its marks come in pairs. -/
inductive Paired : Text → Prop where
  | nil : Paired []
  | char {c : Char} {a : Text} : c ≠ '\'' → Paired a → Paired (c :: a)
  | pair {a : Text} : Paired a → Paired ('\'' :: '\'' :: a)

/-- The inside of a scalar in quotes of this kind. No mark in it closes the scalar. -/
inductive Inside : Char → Text → Prop where
  | single {a : Text} : Paired a → Inside '\'' a
  | double {a : Text} : Argument a → Inside '"' a

/-- A scalar in quotes that says `e`. The mark that closes it is its last character. -/
structure Says (scalar e : Text) : Prop where
  closed : ∃ mark inner, scalar = mark :: inner ++ [mark] ∧ Inside mark inner
  said : quoted? scalar = some e

/-! ### Marks in pairs -/

theorem pairedBody?_cons {c : Char} (ne : c ≠ '\'') (t : Text) :
    pairedBody? (c :: t) = (pairedBody? t).map (c :: ·) := by
  rw [pairedBody?]
  all_goals simp [ne]

/-- Doubled marks come in pairs. -/
theorem paired_doubleQuotes (t : Text) : Paired (doubleQuotes t) := by
  induction t with
  | nil => exact .nil
  | cons c t ih =>
      by_cases mark : c = '\''
      · rw [mark, doubleQuotes_mark]
        exact .pair ih
      · rw [doubleQuotes_cons mark]
        exact .char mark ih

/-- Between single marks, a text with its marks doubled is read back. -/
theorem pairedBody?_doubleQuotes (t : Text) : pairedBody? (doubleQuotes t ++ ['\'']) = some t := by
  induction t with
  | nil => rfl
  | cons c t ih =>
      by_cases mark : c = '\''
      · rw [mark, doubleQuotes_mark, List.cons_append, List.cons_append, pairedBody?, ih]
        rfl
      · rw [doubleQuotes_cons mark, List.cons_append, pairedBody?_cons mark, ih]
        rfl

/-- **A text between single quotes** is said by them. -/
theorem says_singleQuoted (e : Text) : Says (singleQuoted e) e where
  closed := ⟨'\'', doubleQuotes e, rfl, .single (paired_doubleQuotes e)⟩
  said := pairedBody?_doubleQuotes e

/-! ### Backslashes -/

/-- **An escaped value** is said by the string that it stands in. A backslash takes the character
after it, so the reader meets each escape as a whole and no mark closes the string early. -/
theorem scalarBody?_escape (value : Text) : scalarBody? (escape value ++ ['"']) = some value := by
  induction value with
  | nil => rfl
  | cons c value ih =>
      by_cases special : c = '\\' ∨ c = '"'
      · rw [escape_special special]
        rcases special with rfl | rfl
        · rw [List.cons_append, List.cons_append, scalarBody?, ih]
          rfl
        · rw [List.cons_append, List.cons_append, scalarBody?, ih]
          rfl
      · rw [not_or] at special
        rw [escape_other special.1 special.2, List.cons_append,
          scalarBody?_cons special.2 special.1, ih]
        rfl

/-- Without quotation marks, escaping is doubling the backslashes. -/
theorem replaceChar_backslash {e : Text} (noQuote : '"' ∉ e) :
    e.replaceChar '\\' ['\\', '\\'] = escape e := by
  rw [Text.replaceChar, escape]
  refine List.flatMap_congr fun c hc => ?_
  have notQuote : c ≠ '"' := fun eq => noQuote (eq ▸ hc)
  by_cases backslash : c = '\\'
  · simp [backslash]
  · simp [backslash, notQuote]

/-- **An expression of a formula** is said by the quotes that are chosen for it. -/
theorem says_quoteFormula (e : Text) : Says (Form.quoteFormula e) e := by
  rw [Form.quoteFormula]
  split
  · exact says_singleQuoted e
  · next without =>
      have noQuote : '"' ∉ e := by simpa using without
      rw [replaceChar_backslash noQuote]
      exact ⟨⟨'"', escape e, rfl, .double (argument_escape e)⟩, scalarBody?_escape e⟩

/-! ### Calls -/

/-- The argument of a call of the test, as it stands between its quotation marks. -/
def argument? (test call : Text) : Option Text :=
  (Text.after? (callFront test) call).bind (Text.before? "\")".toList)

theorem argument?_filePredicate (test value : Text) :
    argument? test (filePredicate test value) = some (escape value) := by
  rw [argument?, filePredicate, List.append_assoc, Text.after?_eq_some_iff.mpr rfl, Option.bind_some,
    Text.before?_append]

/-- The value that a scalar passes to the test which it calls: the quotes around the call are undone
first, and then the escapes in the argument. -/
def passedValue? (test scalar : Text) : Option Text :=
  ((quoted? scalar).bind (argument? test)).bind fun a => scalarBody? (a ++ ['"'])

/-- **Both layers of quoting can be undone.** The argument of a call has no quotation mark without a
backslash and says the value; an expression with a quotation mark is said by the single quotes around
it, in which every mark is one of a pair; the expression of a formula is said by the quotes that are
chosen for it, with nothing after the mark that closes them; and undoing one layer after the other
gives the value of a call. -/
theorem quoting_is_undone :
    (∀ test value : Text, ∃ a, argument? test (filePredicate test value) = some a ∧ Argument a ∧
      scalarBody? (a ++ ['"']) = some value) ∧
    (∀ e : Text, '"' ∈ e → ∃ inner, quotePredicate e = '\'' :: inner ++ ['\''] ∧ Paired inner ∧
      Says (quotePredicate e) e) ∧
    (∀ e : Text, Says (Form.quoteFormula e) e) ∧
    ∀ test value : Text, passedValue? test (quotePredicate (filePredicate test value)) =
      some value := by
  have single : ∀ e : Text, '"' ∈ e → quotePredicate e = singleQuoted e := fun e quote =>
    if_pos (List.contains_iff_mem.mpr quote)
  refine ⟨fun test value => ?_, fun e quote => ?_, says_quoteFormula, fun test value => ?_⟩
  · exact ⟨escape value, argument?_filePredicate test value, argument_escape value,
      scalarBody?_escape value⟩
  · rw [single e quote]
    exact ⟨doubleQuotes e, rfl, paired_doubleQuotes e, says_singleQuoted e⟩
  · rw [passedValue?, single _ (quote_mem_filePredicate test value),
      (says_singleQuoted _).said, Option.bind_some, argument?_filePredicate, Option.bind_some,
      scalarBody?_escape]

/-- A value with both kinds of quotes and a backslash at its end, in both layers. -/
theorem awkward_call_is_undone :
    let call := filePredicate "hasTag".toList "it's \"\\".toList
    '"' ∈ call ∧ (∃ inner, quotePredicate call = '\'' :: inner ++ ['\''] ∧ Paired inner ∧
        Says (quotePredicate call) call) ∧
      quotePredicate call = "'file.hasTag(\"it''s \\\"\\\\\")'".toList ∧
      passedValue? "hasTag".toList (quotePredicate call) = some "it's \"\\".toList := by
  intro call
  obtain ⟨-, expressions, -, values⟩ := quoting_is_undone
  have quote : '"' ∈ call := by decide
  exact ⟨quote, expressions call quote, by decide, values _ _⟩

end Notebase
