import ApiClient.Code.Lexer
import Mathlib.Data.List.Basic

/-!
Documentation comments that are one line of their own. Each is read as the attribute that it stands
for, unless it has a carriage return in it.
-/

namespace ApiClient.Code.Lexer

/-- A line ends at its line feed, unless a carriage return stands right before it. -/
theorem takeLine_append {text : List Char} (hfeed : '\n' ∉ text) (hend : text.getLast? ≠ some '\r')
    (rest : List Char) : takeLine (text ++ '\n' :: rest) = (text, '\n' :: rest) := by
  induction text with
  | nil => rfl
  | cons c text ih =>
      obtain ⟨hc, htext⟩ := List.ne_and_not_mem_of_not_mem_cons hfeed
      have hreturn : ∀ tail, c = '\r' → text ++ '\n' :: rest = '\n' :: tail → False := by
        rintro tail rfl htail
        cases text with
        | nil => exact hend rfl
        | cons d text => exact htext (List.mem_cons.mpr (.inl (List.cons.inj htail).1.symm))
      have hend' : text.getLast? ≠ some '\r' := by
        intro hlast
        exact hend (by rw [List.getLast?_cons, hlast]; rfl)
      rw [List.cons_append, takeLine.eq_4 _ _ (Ne.symm hc) hreturn, ih htext hend']

theorem noBareReturn_iff {text : List Char} (hfeed : '\n' ∉ text) :
    noBareReturn text = true ↔ '\r' ∉ text := by
  fun_induction noBareReturn text with
  | case1 rest ih => simp at hfeed
  | case2 c rest hc ih =>
      obtain ⟨-, hrest⟩ := List.ne_and_not_mem_of_not_mem_cons hfeed
      rw [Bool.and_eq_true, ih hrest, List.mem_cons, not_or, bne_iff_ne, ne_comm]
  | case3 => simp

theorem startsWith_fourSlashes {cs : List Char} (h : cs.head? ≠ some '/') :
    startsWith ('/' :: '/' :: '/' :: cs) "////" = false := by
  change List.isPrefixOf ['/', '/', '/', '/'] ('/' :: '/' :: '/' :: cs) = false
  cases cs with
  | nil => rfl
  | cons c cs =>
      have hc : ('/' == c) = false := beq_false_of_ne fun heq => h (by rw [← heq]; rfl)
      simp [List.isPrefixOf, hc]

/-- What begins like a documentation comment is not skipped. -/
theorem skipBlanks_comment {cs : List Char} (h : cs.head? ≠ some '/') (fuel : Nat) :
    skipBlanks fuel ('/' :: '/' :: '/' :: cs) = '/' :: '/' :: '/' :: cs := by
  cases fuel with
  | zero => rfl
  | succ fuel =>
      have hline : startsWith ('/' :: '/' :: '/' :: cs) "///" = true := rfl
      have hempty : startsWith ('/' :: '/' :: '/' :: cs) "/**/" = false := rfl
      have hblock : startsWith ('/' :: '/' :: '/' :: cs) "/*" = false := rfl
      have hblank : isBlank '/' = false := rfl
      simp only [skipBlanks, startsWith_fourSlashes h, hline, hempty, hblock, hblank]
      simp

theorem docComment?_line {text : List Char} (hslash : text.head? ≠ some '/')
    (hfeed : '\n' ∉ text) (hend : text.getLast? ≠ some '\r') (rest : List Char) :
    docComment? ('/' :: '/' :: '/' :: (text ++ '\n' :: rest)) =
      some (text, false, '\n' :: rest) := by
  have hinner : startsWith ('/' :: '/' :: '/' :: (text ++ '\n' :: rest)) "//!" = false := rfl
  have hblock : startsWith ('/' :: '/' :: '/' :: (text ++ '\n' :: rest)) "/*!" = false := rfl
  have hline : startsWith ('/' :: '/' :: '/' :: (text ++ '\n' :: rest)) "///" = true := rfl
  have hfour : startsWith ('/' :: '/' :: '/' :: (text ++ '\n' :: rest)) "////" = false := by
    apply startsWith_fourSlashes
    cases text with
    | nil => simp
    | cons c text => simpa using hslash
  simp [docComment?, hinner, hblock, hline, hfour, takeLine_append hfeed hend]

theorem head?_append_lineFeed {text : List Char} (h : text.head? ≠ some '/') :
    (text ++ ['\n']).head? ≠ some '/' := by
  cases text with
  | nil => simp
  | cons c text => exact h

theorem lexemes_comment {text : List Char} (hslash : text.head? ≠ some '/')
    (hfeed : '\n' ∉ text) (hend : text.getLast? ≠ some '\r') (fuel : Nat) :
    lexemes (fuel + 2) ('/' :: '/' :: '/' :: (text ++ ['\n'])) =
      if noBareReturn text then some ((docTokens text false).map .token) else none := by
  have hrest : lexemes (fuel + 1) ['\n'] = some [] := rfl
  rw [lexemes, skipBlanks_comment (head?_append_lineFeed hslash)]
  simp only [docComment?_line hslash hfeed hend []]
  rw [hrest, Option.map_some, List.append_nil]

end ApiClient.Code.Lexer

namespace ApiClient.Code

/-- A documentation comment on a line of its own is read as the attribute it stands for, and not at
all when there is a carriage return in it. -/
theorem ofText?_comment {text : String} (hslash : text.toList.head? ≠ some '/')
    (hfeed : '\n' ∉ text.toList) (hend : text.toList.getLast? ≠ some '\r') :
    Token.ofText? ("///" ++ text ++ "\n") =
      if Lexer.noBareReturn text.toList then some (Lexer.docTokens text.toList false) else none := by
  have hchars : ("///" ++ text ++ "\n").toList = '/' :: '/' :: '/' :: (text.toList ++ ['\n']) := by
    simp
  have hlength : ('/' :: '/' :: '/' :: (text.toList ++ ['\n'])).length + 1 =
      text.toList.length + 3 + 2 := by simp
  rw [Token.ofText?, hchars]
  simp only [List.head?_cons, Option.some.injEq, Char.reduceEq, if_false, hlength]
  rw [Lexer.lexemes_comment hslash hfeed hend]
  cases Lexer.noBareReturn text.toList <;> rfl

end ApiClient.Code
