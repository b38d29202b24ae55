import GrowthEstimate.Proofs.Text.Lines
import GrowthEstimate.Tree.Parse
import Mathlib.Data.List.TakeWhile
import Mathlib.Data.Nat.Count

/-!
Contract: the calls that are counted in a code text are the names that stand alone before an
opening parenthesis.

Owns: the maximal runs of name characters in a text, the places where one of them calls a
name, and that these are what the count of calls counts.

Does **not** own: whether such a name means the function that is looked at.

The scan goes over occurrences of the name, which may lie inside longer names, and leaves out
the rest of each occurrence.  What it leaves out stands behind a name character, so no run
begins there, and a refused occurrence never hides a call.
-/

set_option autoImplicit false

namespace GrowthEstimate.Recursion

open Text

/-- A run of name characters stands at a place of a text, and no name character stands right
before or right behind it. -/
structure IsMaximalRun (text : List Char) (start : Nat) (run : List Char) : Prop where
  notEmpty : run ≠ []
  isName : ∀ char ∈ run, isAsciiNameChar char = true
  isThere : run <+: text.drop start
  startsThere : (text.take start).getLast?.any isAsciiNameChar = false
  endsThere : (text.drop (start + run.length)).head?.any isAsciiNameChar = false

/-- A name is a maximal run at a place of a text, and the next character behind it that is no
blank is an opening parenthesis. -/
structure CallAt (text name : List Char) (start : Nat) : Prop where
  isRun : IsMaximalRun text start name
  opens : (text.drop (start + name.length)).find? (fun char => !isSpace char) = some '('

instance (text run : List Char) (start : Nat) : Decidable (IsMaximalRun text start run) :=
  decidable_of_iff
    (run ≠ [] ∧ run.all isAsciiNameChar = true ∧ run <+: text.drop start ∧
      (text.take start).getLast?.any isAsciiNameChar = false ∧
      (text.drop (start + run.length)).head?.any isAsciiNameChar = false)
    ⟨fun ⟨notEmpty, isName, isThere, startsThere, endsThere⟩ =>
      ⟨notEmpty, List.all_eq_true.mp isName, isThere, startsThere, endsThere⟩,
      fun ⟨notEmpty, isName, isThere, startsThere, endsThere⟩ =>
      ⟨notEmpty, List.all_eq_true.mpr isName, isThere, startsThere, endsThere⟩⟩

instance (text name : List Char) (start : Nat) : Decidable (CallAt text name start) :=
  decidable_of_iff
    (IsMaximalRun text start name ∧
      (text.drop (start + name.length)).find? (fun char => !isSpace char) = some '(')
    ⟨fun ⟨isRun, opens⟩ => ⟨isRun, opens⟩, fun ⟨isRun, opens⟩ => ⟨isRun, opens⟩⟩

/-- The ends of a maximal run can be told by the bytes around it. -/
theorem isMaximalRun_iff_bytes {text run : List Char} {start : Nat} :
    IsMaximalRun text start run ↔
      (run ≠ [] ∧ (∀ char ∈ run, isAsciiNameChar char = true) ∧ run <+: text.drop start) ∧
        (bytes (text.take start)).getLast?.any isNameByte = false ∧
        (bytes (text.drop (start + run.length))).head?.any isNameByte = false := by
  rw [any_getLast?_bytes, any_head?_bytes]
  constructor
  · rintro ⟨notEmpty, isName, isThere, startsThere, endsThere⟩
    exact ⟨⟨notEmpty, isName, isThere⟩, startsThere, endsThere⟩
  · rintro ⟨⟨notEmpty, isName, isThere⟩, startsThere, endsThere⟩
    exact ⟨notEmpty, isName, isThere, startsThere, endsThere⟩

theorem opensCall_iff {following : List Char} :
    opensCall following = true ↔
      following.head?.any isAsciiNameChar = false ∧
        following.find? (fun char => !isSpace char) = some '(' := by
  have opens : opensWith ['('] (trimStart following) = true ↔
      following.find? (fun char => !isSpace char) = some '(' := by
    rw [List.find?_eq_head?_dropWhile_not]
    simp only [Bool.not_not, opensWith, trimStart]
    cases following.dropWhile isSpace with
    | nil => simp [stripFront]
    | cons char rest => simpa [stripFront] using eq_comm
  rw [opensCall, Bool.and_eq_true, opens, Bool.not_eq_true', and_comm]

section Places

variable {name front : List Char}

/-- The place behind a front of the text, where the name stands. -/
theorem callAt_behind_iff (notEmpty : name ≠ [])
    (isName : ∀ char ∈ name, isAsciiNameChar char = true) (following : List Char) :
    CallAt (front ++ (name ++ following)) name front.length ↔
      (!(front.getLast?.any isAsciiNameChar) && opensCall following) = true := by
  rw [Bool.and_eq_true, opensCall_iff, Bool.not_eq_true']
  have before : (front ++ (name ++ following)).take front.length = front :=
    List.take_left
  have behind : (front ++ (name ++ following)).drop (front.length + name.length) = following := by
    rw [← List.append_assoc, ← List.length_append, List.drop_left]
  constructor
  · rintro ⟨⟨_, _, _, startsThere, endsThere⟩, opens⟩
    rw [before] at startsThere
    rw [behind] at endsThere opens
    exact ⟨startsThere, endsThere, opens⟩
  · rintro ⟨startsThere, endsThere, opens⟩
    refine ⟨⟨notEmpty, isName, ?_, before.symm ▸ startsThere, behind.symm ▸ endsThere⟩,
      behind.symm ▸ opens⟩
    rw [List.drop_left]
    exact List.prefix_append name following

/-- No call begins where the name does not stand. -/
theorem not_callAt_of_stripFront {text : List Char} (missing : stripFront name text = none) :
    ¬CallAt (front ++ text) name front.length := by
  intro call
  have isThere := call.isRun.isThere
  rw [List.drop_left] at isThere
  obtain ⟨following, isText⟩ := isThere
  rw [stripFront_eq_some_iff.mpr isText.symm] at missing
  contradiction

/-- No call begins behind a name character. -/
theorem not_callAt_behind_name {text : List Char}
    (behindName : front.getLast?.any isAsciiNameChar = true) :
    ¬CallAt (front ++ text) name front.length := by
  intro call
  have startsThere := call.isRun.startsThere
  rw [List.take_left, behindName] at startsThere
  contradiction

/-- The calls in what stands behind a front: the one that begins there, if any, and those
behind the next character. -/
theorem count_behind_cons (name front : List Char) (char : Char) (rest : List Char) :
    Nat.count (fun steps => CallAt (front ++ char :: rest) name (front.length + steps))
        (rest.length + 1) =
      (if CallAt (front ++ char :: rest) name front.length then 1 else 0)
        + Nat.count (fun steps => CallAt (front ++ [char] ++ rest) name
            ((front ++ [char]).length + steps)) rest.length := by
  rw [Nat.count_succ', Nat.add_comm, List.append_assoc, List.singleton_append,
    List.length_append, List.length_singleton]
  simp only [Nat.add_zero, Nat.add_assoc, Nat.add_comm 1]

end Places

/-- From any place on, the scan adds the calls that begin there or later.  What it is about to
leave out are name characters behind a name character. -/
theorem countCallsFrom_eq {name : List Char} (notEmpty : name ≠ [])
    (isName : ∀ char ∈ name, isAsciiNameChar char = true) (found skip : Nat)
    (front text : List Char)
    (behindName : 0 < skip → front.getLast?.any isAsciiNameChar = true)
    (leftOut : ∀ char ∈ text.take skip, isAsciiNameChar char = true) :
    countCallsFrom name found skip front.getLast? text =
      found + Nat.count (fun steps => CallAt (front ++ text) name (front.length + steps))
        text.length := by
  induction text generalizing found skip front with
  | nil => simp [countCallsFrom]
  | cons char rest inductionHypothesis =>
      have next (found skip : Nat) (isNameChar : 0 < skip → isAsciiNameChar char = true)
          (leftOut : ∀ char ∈ rest.take skip, isAsciiNameChar char = true) :
          countCallsFrom name found skip (some char) rest =
            found + Nat.count (fun steps => CallAt (front ++ [char] ++ rest) name
              ((front ++ [char]).length + steps)) rest.length := by
        rw [← inductionHypothesis found skip (front ++ [char]) _ leftOut, List.getLast?_concat]
        rw [List.getLast?_concat]
        exact isNameChar
      rw [List.length_cons, count_behind_cons]
      cases skip with
      | succ skip =>
          rw [countCallsFrom, next found skip, if_neg (not_callAt_behind_name
            (behindName (Nat.succ_pos skip))), Nat.zero_add]
          · exact fun _ => leftOut char List.mem_cons_self
          · exact fun other isOther => leftOut other (List.mem_cons_of_mem char isOther)
      | zero =>
          rw [countCallsFrom]
          cases isThere : stripFront name (char :: rest) with
          | none =>
              dsimp only
              rw [next found 0 (fun more => absurd more (Nat.lt_irrefl 0)) (by simp),
                if_neg (not_callAt_of_stripFront isThere), Nat.zero_add]
          | some following =>
              dsimp only
              have isText := stripFront_eq_some_iff.mp isThere
              obtain ⟨others, rfl, isRest⟩ := List.append_eq_cons_iff.mp isText.symm |>.resolve_left
                (fun ⟨isNil, _⟩ => notEmpty isNil)
              have isCall : CallAt (front ++ char :: rest) (char :: others) front.length ↔
                  (!(front.getLast?.any isAsciiNameChar) && opensCall following) = true := by
                rw [isText]
                exact callAt_behind_iff notEmpty isName following
              rw [List.length_cons, Nat.add_sub_cancel, next _ others.length
                (fun _ => isName char List.mem_cons_self), if_congr isCall rfl rfl]
              · split <;> omega
              · rw [isRest, List.take_left]
                exact fun other isOther => isName other (List.mem_cons_of_mem char isOther)

/-- The calls of a name that are counted in a code text are its maximal runs of name characters
that are this name and stand, blanks aside, before an opening parenthesis. -/
theorem countCalls_eq_count {name : List Char} (notEmpty : name ≠ [])
    (isName : ∀ char ∈ name, isAsciiNameChar char = true) (code : List Char) :
    countCalls code name = Nat.count (CallAt code name) code.length := by
  have scanned := countCallsFrom_eq notEmpty isName 0 0 [] code
    (fun more => absurd more (Nat.lt_irrefl 0)) (by simp)
  simp only [List.nil_append, List.length_nil, Nat.zero_add] at scanned
  rw [countCalls, if_neg (by simpa using notEmpty)]
  exact scanned

/-- Longer runs of its letter are no calls of the name, and one before a dot is none; one behind
a letter outside ASCII is a call, whatever blanks there are before the parenthesis. -/
theorem countCalls_eq_count_repeated :
    let name := "aa".toList
    let code := "aaa(é) + aa.b + aaaa(x) + éaa (y)".toList
    name ≠ [] ∧ (∀ char ∈ name, isAsciiNameChar char = true) ∧
      countCalls code name = Nat.count (CallAt code name) code.length ∧
      countCalls code name = 1 := by
  intro name code
  have notEmpty : name ≠ [] := by decide
  have isName : ∀ char ∈ name, isAsciiNameChar char = true := List.all_eq_true.mp (by decide)
  exact ⟨notEmpty, isName, countCalls_eq_count notEmpty isName code, by decide +kernel⟩

end GrowthEstimate.Recursion
