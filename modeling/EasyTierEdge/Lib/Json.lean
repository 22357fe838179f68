/- module: EasyTierEdge/Lib/Json
   layer: library
   digest: JSON texts of UTF-16 code units: how they are read, and how flat values are written. -/

import EasyTierEdge.Lib.Double
import Mathlib.Tactic.IntervalCases

set_option autoImplicit false
set_option relaxedAutoImplicit false

namespace EasyTierEdge.Lib.Json

open Utf16 Double

/-- A value. Members stand as they were read; a name may stand more than once. -/
inductive Value
  | null
  | bool (value : Bool)
  | number (value : Number)
  | string (text : Units)
  | array (items : List Value)
  | object (members : List (Units × Value))

/-- The last member of a name counts. -/
def member? (name : Units) (members : List (Units × Value)) : Option Value :=
  (members.reverse.find? fun m => m.1 = name).map Prod.snd

/-! Reading. -/

def isSpace (u : UInt16) : Bool := u = 9 || u = 10 || u = 13 || u = 32

def skip (s : Units) : Units := s.dropWhile isSpace

/-- The rest after this code unit, which spaces may come before. -/
def expect (u : UInt16) (s : Units) : Option Units :=
  match skip s with
  | [] => none
  | v :: rest => if v = u then some rest else none

def hexValue (u : UInt16) : Option Nat :=
  if 48 ≤ u.toNat ∧ u.toNat ≤ 57 then some (u.toNat - 48)
  else if 65 ≤ u.toNat ∧ u.toNat ≤ 70 then some (u.toNat - 55)
  else if 97 ≤ u.toNat ∧ u.toNat ≤ 102 then some (u.toNat - 87)
  else none

/-- What stands behind a backslash, for one code unit. -/
def unescape (u : UInt16) : Option UInt16 :=
  if u = 34 ∨ u = 92 ∨ u = 47 then some u
  else if u = 98 then some 8
  else if u = 102 then some 12
  else if u = 110 then some 10
  else if u = 114 then some 13
  else if u = 116 then some 9
  else none

/-- A string, from behind its opening quotation mark. -/
def text : Units → Option (Units × Units)
  | [] => none
  | u :: rest =>
    if u = 34 then some ([], rest)
    else if u.toNat < 32 then none
    else if u = 92 then
      match rest with
      | [] => none
      | v :: rest =>
        if v = 117 then
          match rest with
          | a :: b :: c :: d :: rest => do
            let a ← hexValue a
            let b ← hexValue b
            let c ← hexValue c
            let d ← hexValue d
            let (t, rest) ← text rest
            return (UInt16.ofNat (((a * 16 + b) * 16 + c) * 16 + d) :: t, rest)
          | _ => none
        else do
          let v ← unescape v
          let (t, rest) ← text rest
          return (v :: t, rest)
    else do
      let (t, rest) ← text rest
      return (u :: t, rest)

/-- The digits behind a decimal point, if there is one. -/
def fraction : Units → Option (Units × Units)
  | [] => some ([], [])
  | u :: rest =>
    if u = 46 then
      if rest.takeWhile isDigit = [] then none
      else some (rest.takeWhile isDigit, rest.dropWhile isDigit)
    else some ([], u :: rest)

def number (s : Units) : Option (Number × Units) :=
  let (negative, s) := sign false s
  let whole := s.takeWhile isDigit
  if whole = [] ∨ (whole.length ≠ 1 ∧ whole.head? = some 48) then none
  else do
    let (part, s) ← fraction (s.dropWhile isDigit)
    let (e, s) ← exponent s
    return (ofDecimal negative (natOf (whole ++ part)) (e - part.length), s)

def keyword (word : Units) (value : Value) (s : Units) : Option (Value × Units) :=
  if word.isPrefixOf s then some (value, s.drop word.length) else none

section Nested

variable (value : Units → Option (Value × Units))

/-- The items of an array that has some, up to its end. -/
def items : Nat → Units → Option (List Value × Units)
  | 0, _ => none
  | n + 1, s => do
    let (v, s) ← value s
    match expect 44 s with
    | some s => do
      let (vs, s) ← items n s
      return (v :: vs, s)
    | none => do
      let s ← expect 93 s
      return ([v], s)

/-- The members of an object that has some, up to its end. -/
def members : Nat → Units → Option (List (Units × Value) × Units)
  | 0, _ => none
  | n + 1, s => do
    let s ← expect 34 s
    let (name, s) ← text s
    let s ← expect 58 s
    let (v, s) ← value s
    match expect 44 s with
    | some s => do
      let (ms, s) ← members n s
      return ((name, v) :: ms, s)
    | none => do
      let s ← expect 125 s
      return ([(name, v)], s)

end Nested

/-- A value; `n` bounds how long the text is. -/
def value : Nat → Units → Option (Value × Units)
  | 0, _ => none
  | n + 1, s =>
    match skip s with
    | [] => none
    | u :: rest =>
      if u = 34 then do
        let (t, rest) ← text rest
        return (.string t, rest)
      else if u = 123 then
        match expect 125 rest with
        | some rest => some (.object [], rest)
        | none => do
          let (ms, rest) ← members (value n) n rest
          return (.object ms, rest)
      else if u = 91 then
        match expect 93 rest with
        | some rest => some (.array [], rest)
        | none => do
          let (vs, rest) ← items (value n) n rest
          return (.array vs, rest)
      else if u = 110 then keyword [110, 117, 108, 108] .null (u :: rest)
      else if u = 116 then keyword [116, 114, 117, 101] (.bool true) (u :: rest)
      else if u = 102 then keyword [102, 97, 108, 115, 101] (.bool false) (u :: rest)
      else do
        let (v, rest) ← number (u :: rest)
        return (.number v, rest)

/-- `JSON.parse`; `none` where it throws. -/
def parse (s : Units) : Option Value := do
  let (v, rest) ← value (s.length + 1) s
  if skip rest = [] then some v else none

/-! Writing. -/

def hexDigit (n : Nat) : UInt16 := UInt16.ofNat (if n < 10 then 48 + n else 87 + n)

/-- The characters that have an escape of their own. -/
def shortEscape : Nat → Option UInt16
  | 34 => some 34
  | 92 => some 92
  | 8 => some 98
  | 12 => some 102
  | 10 => some 110
  | 13 => some 114
  | 9 => some 116
  | _ => none

def escape (c : Char) : Units :=
  match shortEscape c.toNat with
  | some u => [92, u]
  | none =>
    if c.toNat < 32 then [92, 117, 48, 48, hexDigit (c.toNat / 16), hexDigit (c.toNat % 16)]
    else encodeChar c

def writeText (cs : List Char) : Units := 34 :: cs.flatMap escape ++ [34]

def writeNatural (n : Nat) : Units := encode (Nat.toDigits 10 n)

/-- A value without parts, as a program has it. -/
inductive Scalar
  | natural (n : Nat)
  | text (cs : List Char)

def Scalar.write : Scalar → Units
  | .natural n => writeNatural n
  | .text cs => writeText cs

/-- What the value is to be read as. -/
def Scalar.read : Scalar → Value
  | .natural n => .number (.finite n)
  | .text cs => .string (encode cs)

/-- Numbers that a double holds exactly. -/
def Scalar.Exact : Scalar → Prop
  | .natural n => n < 2 ^ 53
  | .text _ => True

def writeMembers : List (List Char × Scalar) → Units
  | [] => []
  | [(name, x)] => writeText name ++ 58 :: x.write
  | (name, x) :: m :: rest => writeText name ++ 58 :: x.write ++ 44 :: writeMembers (m :: rest)

def writeObject (fields : List (List Char × Scalar)) : Units := 123 :: writeMembers fields ++ [125]

def writeItems : List Scalar → Units
  | [] => []
  | [x] => x.write
  | x :: y :: rest => x.write ++ 44 :: writeItems (y :: rest)

def writeArray (xs : List Scalar) : Units := 91 :: writeItems xs ++ [93]

/-! Strings. -/

private theorem text_quote (s : Units) : text (34 :: s) = some ([], s) := by
  rw [text.eq_def]
  rfl

/-- Code units that stand for themselves. -/
def Plain (u : UInt16) : Prop := 32 ≤ u.toNat ∧ u ≠ 34 ∧ u ≠ 92

private theorem text_plain {us : Units} (plain : ∀ u ∈ us, Plain u) (s : Units) :
    text (us ++ s) = (text s).map fun r => (us ++ r.1, r.2) := by
  induction us with
  | nil => simp
  | cons u us ih =>
    obtain ⟨large, quote, backslash⟩ := plain u List.mem_cons_self
    rw [List.cons_append, text.eq_def]
    simp only [if_neg quote, if_neg (Nat.not_lt.mpr large), if_neg backslash,
      ih fun v member => plain v (List.mem_cons_of_mem u member)]
    cases text s with
    | none => rfl
    | some r => rfl

private theorem text_escaped {u v : UInt16} (other : u ≠ 117) (known : unescape u = some v)
    (s : Units) :
    text (92 :: u :: s) = (text s).map fun r => (v :: r.1, r.2) := by
  rw [text.eq_def]
  simp only [if_neg other, known]
  cases text s with
  | none => rfl
  | some r => rfl

private theorem hexValue_hexDigit {n : Nat} (small : n < 16) : hexValue (hexDigit n) = some n := by
  interval_cases n
  all_goals rfl

private theorem text_control {a b : Nat} (small_a : a < 16) (small_b : b < 16) (s : Units) :
    text (92 :: 117 :: 48 :: 48 :: hexDigit a :: hexDigit b :: s) =
      (text s).map fun r => (UInt16.ofNat (a * 16 + b) :: r.1, r.2) := by
  have zero : hexValue 48 = some 0 := rfl
  rw [text.eq_def]
  simp only [zero, hexValue_hexDigit small_a, hexValue_hexDigit small_b]
  cases text s with
  | none => rfl
  | some r => simp

private theorem unescape_shortEscape {n : Nat} {u : UInt16} (short : shortEscape n = some u) :
    u ≠ 117 ∧ n < 0x10000 ∧ unescape u = some (UInt16.ofNat n) := by
  unfold shortEscape at short
  split at short
  all_goals first
    | cases short
      exact ⟨by decide, by decide, rfl⟩
    | cases short

private theorem encodeChar_small {c : Char} (small : c.toNat < 0x10000) :
    encodeChar c = [UInt16.ofNat c.toNat] := by
  rw [encodeChar, if_pos small]

private theorem encodeChar_plain {c : Char} (long : shortEscape c.toNat = none)
    (large : ¬ c.toNat < 32) :
    ∀ u ∈ encodeChar c, Plain u := by
  intro u member
  have code {n : Nat} {k : UInt16} (special : shortEscape n ≠ none) (same : k.toNat = n)
      (surrogate : k.toNat < 0xD800) : u ≠ k := by
    rintro rfl
    rcases encodeChar_units u member with ⟨_, own⟩ | high
    · rw [← own, same] at long
      exact special long
    · omega
  refine ⟨?_, code (by decide : shortEscape 34 ≠ none) rfl (by decide),
    code (by decide : shortEscape 92 ≠ none) rfl (by decide)⟩
  rcases encodeChar_units u member with ⟨_, own⟩ | high
  · omega
  · omega

private theorem text_escape (c : Char) (s : Units) :
    text (escape c ++ s) = (text s).map fun r => (encodeChar c ++ r.1, r.2) := by
  unfold escape
  split
  · rename_i u short
    obtain ⟨other, small, known⟩ := unescape_shortEscape short
    rw [encodeChar_small small]
    exact text_escaped other known s
  · rename_i long
    split
    · rename_i control
      have whole : c.toNat / 16 * 16 + c.toNat % 16 = c.toNat := by omega
      have read := @text_control (c.toNat / 16) (c.toNat % 16) (by omega) (by omega) s
      rw [whole] at read
      rw [encodeChar_small (by omega)]
      exact read
    · rename_i large
      exact text_plain (encodeChar_plain long large) s

theorem text_written (cs : List Char) (s : Units) :
    text (cs.flatMap escape ++ 34 :: s) = some (encode cs, s) := by
  induction cs with
  | nil => exact text_quote s
  | cons c cs ih =>
    rw [List.flatMap_cons, List.append_assoc, text_escape, ih]
    rfl

/-! The bound on the nesting. -/

/-- A reader that gives back no more than it was given. -/
def Shrinks {α : Type} (read : Units → Option (α × Units)) : Prop :=
  ∀ s a r, read s = some (a, r) → r.length ≤ s.length

private theorem length_skip (s : Units) : (skip s).length ≤ s.length :=
  (List.dropWhile_sublist isSpace).length_le

private theorem length_expect {u : UInt16} {s r : Units} (read : expect u s = some r) :
    r.length < s.length := by
  have short := length_skip s
  unfold expect at read
  split at read
  · cases read
  · rename_i v rest starts
    split at read
    · cases read
      rw [starts, List.length_cons] at short
      omega
    · cases read

private theorem length_text {s t r : Units} (read : text s = some (t, r)) :
    r.length < s.length := by
  induction s using text.induct generalizing t r with
  | case1 => cases read
  | case2 rest =>
    rw [text_quote] at read
    cases read
    exact Nat.lt_succ_self _
  | case3 u rest plain control =>
    rw [text.eq_def] at read
    simp only [if_neg plain, if_pos control] at read
    cases read
  | case4 => cases read
  | case5 a b c d rest quote control ih =>
    rw [text.eq_def] at read
    simp [Option.bind_eq_some_iff] at read
    obtain ⟨_, _, _, _, _, _, _, _, t', inner, _⟩ := read
    have short := ih inner
    simp only [List.length_cons]
    omega
  | case6 rest short =>
    rw [text.eq_def] at read
    simp at read
  | case7 v rest other quote control ih =>
    rw [text.eq_def] at read
    simp [other, Option.bind_eq_some_iff] at read
    obtain ⟨_, _, t', inner, _⟩ := read
    have short := ih inner
    simp only [List.length_cons]
    omega
  | case8 u rest quote large backslash ih =>
    rw [text.eq_def] at read
    simp only [if_neg quote, if_neg large, if_neg backslash, Option.bind_eq_bind,
      Option.bind_eq_some_iff] at read
    obtain ⟨⟨t', r'⟩, inner, outer⟩ := read
    cases outer
    exact Nat.lt_succ_of_lt (ih inner)

private theorem length_dropDigits (s : Units) : (s.dropWhile isDigit).length ≤ s.length :=
  (List.dropWhile_sublist isDigit).length_le

private theorem length_sign (plus : Bool) (s : Units) : (sign plus s).2.length ≤ s.length := by
  unfold sign
  split
  · exact Nat.le_refl _
  · split
    · exact Nat.le_succ _
    · split
      · exact Nat.le_succ _
      · exact Nat.le_refl _

private theorem shrinks_fraction : Shrinks fraction := by
  intro s part r read
  unfold fraction at read
  split at read
  · cases read
    exact Nat.le_refl _
  · rename_i u rest
    split at read
    · split at read
      · cases read
      · cases read
        exact Nat.le_succ_of_le (length_dropDigits rest)
    · cases read
      exact Nat.le_refl _

private theorem shrinks_exponent : Shrinks exponent := by
  intro s e r read
  unfold exponent at read
  split at read
  · cases read
    exact Nat.le_refl _
  · rename_i u rest
    split at read
    · simp only at read
      split at read
      · cases read
      · cases read
        exact Nat.le_succ_of_le ((length_dropDigits _).trans (length_sign true rest))
    · cases read
      exact Nat.le_refl _

private theorem shrinks_number : Shrinks number := by
  intro s v r read
  unfold number at read
  simp only at read
  split at read
  · cases read
  · simp only [Option.bind_eq_bind, Option.bind_eq_some_iff] at read
    obtain ⟨⟨part, s₁⟩, first, ⟨e, s₂⟩, second, last⟩ := read
    cases last
    have whole := (length_dropDigits _).trans (length_sign false s)
    exact (shrinks_exponent _ _ _ second).trans ((shrinks_fraction _ _ _ first).trans whole)

private theorem shrinks_keyword (word : Units) (v : Value) : Shrinks (keyword word v) := by
  intro s v' r read
  unfold keyword at read
  split at read
  · cases read
    rw [List.length_drop]
    exact Nat.sub_le _ _
  · cases read

section Nested

variable {f g : Units → Option (Value × Units)} (shrinks : Shrinks f)

include shrinks

private theorem shrinks_items (k : Nat) : Shrinks (items f k) := by
  induction k with
  | zero =>
    intro s vs r read
    cases read
  | succ k ih =>
    intro s vs r read
    rw [items] at read
    simp only [Option.bind_eq_bind, Option.bind_eq_some_iff] at read
    obtain ⟨⟨v, s₁⟩, first, read⟩ := read
    have short := shrinks _ _ _ first
    split at read
    · rename_i s₂ comma
      have shorter : s₂.length < s₁.length := length_expect comma
      simp only [Option.bind_eq_some_iff] at read
      obtain ⟨⟨vs', s₃⟩, rest, last⟩ := read
      cases last
      have least : s₃.length ≤ s₂.length := ih _ _ _ rest
      exact (least.trans shorter.le).trans short
    · simp only [Option.bind_eq_some_iff] at read
      obtain ⟨s₂, bracket, last⟩ := read
      cases last
      exact (length_expect bracket).le.trans short

private theorem shrinks_members (k : Nat) : Shrinks (members f k) := by
  induction k with
  | zero =>
    intro s ms r read
    cases read
  | succ k ih =>
    intro s ms r read
    rw [members] at read
    simp only [Option.bind_eq_bind, Option.bind_eq_some_iff] at read
    obtain ⟨s₁, quote, ⟨name, s₂⟩, named, s₃, colon, ⟨v, s₄⟩, held, read⟩ := read
    have short₁ := length_expect quote
    have short₂ : s₂.length < s₁.length := length_text named
    have short₃ : s₃.length < s₂.length := length_expect colon
    have short₄ : s₄.length ≤ s₃.length := shrinks _ _ _ held
    split at read
    · rename_i s₅ comma
      have shorter : s₅.length < s₄.length := length_expect comma
      simp only [Option.bind_eq_some_iff] at read
      obtain ⟨⟨ms', s₆⟩, rest, last⟩ := read
      cases last
      have least : s₆.length ≤ s₅.length := ih _ _ _ rest
      show s₆.length ≤ s.length
      omega
    · simp only [Option.bind_eq_some_iff] at read
      obtain ⟨s₅, brace, last⟩ := read
      cases last
      have shorter : r.length < s₄.length := length_expect brace
      omega

variable {b : Nat}

private theorem items_agree (agree : ∀ s : Units, s.length < b → f s = g s) {k l : Nat} {s : Units}
    (short : s.length < b) (enough : s.length < k) (enough' : s.length < l) :
    items f k s = items g l s := by
  induction k generalizing l s with
  | zero => omega
  | succ k ih =>
    obtain ⟨l, rfl⟩ := Nat.exists_eq_succ_of_ne_zero (show l ≠ 0 by omega)
    rw [items, items, ← agree s short]
    simp only [Option.bind_eq_bind]
    refine Option.bind_congr fun r held => ?_
    have less : r.2.length ≤ s.length := shrinks _ _ _ held
    cases comma : expect 44 r.2 with
    | none => rfl
    | some s₁ =>
      have shorter := length_expect comma
      simp only
      rw [ih (l := l) (by omega) (by omega) (by omega)]

private theorem members_agree (agree : ∀ s : Units, s.length < b → f s = g s) {k l : Nat}
    {s : Units} (short : s.length < b) (enough : s.length < k) (enough' : s.length < l) :
    members f k s = members g l s := by
  induction k generalizing l s with
  | zero => omega
  | succ k ih =>
    obtain ⟨l, rfl⟩ := Nat.exists_eq_succ_of_ne_zero (show l ≠ 0 by omega)
    rw [members, members]
    simp only [Option.bind_eq_bind]
    refine Option.bind_congr fun s₁ quote => Option.bind_congr fun name named =>
      Option.bind_congr fun s₂ colon => ?_
    have short₁ := length_expect quote
    have short₂ : name.2.length < s₁.length := length_text named
    have short₃ := length_expect colon
    rw [← agree s₂ (by omega)]
    refine Option.bind_congr fun r held => ?_
    have less : r.2.length ≤ s₂.length := shrinks _ _ _ held
    cases comma : expect 44 r.2 with
    | none => rfl
    | some s₃ =>
      have shorter := length_expect comma
      simp only
      rw [ih (l := l) (by omega) (by omega) (by omega)]

end Nested

private theorem shrinks_value (n : Nat) : Shrinks (value n) := by
  induction n with
  | zero =>
    intro s v r read
    cases read
  | succ n ih =>
    intro s v r read
    have short := length_skip s
    rw [value] at read
    split at read
    · cases read
    · rename_i u rest starts
      rw [starts, List.length_cons] at short
      suffices least : r.length ≤ rest.length + 1 from least.trans short
      have less {s' : Units} (inner : s'.length ≤ rest.length) : s'.length ≤ rest.length + 1 :=
        inner.trans (Nat.le_succ _)
      split at read
      · simp only [Option.bind_eq_bind, Option.bind_eq_some_iff] at read
        obtain ⟨⟨t, s₁⟩, inner, last⟩ := read
        cases last
        exact less (length_text inner).le
      split at read
      · split at read
        · rename_i s₁ brace
          cases read
          exact less (length_expect brace).le
        · simp only [Option.bind_eq_bind, Option.bind_eq_some_iff] at read
          obtain ⟨⟨ms, s₁⟩, inner, last⟩ := read
          cases last
          exact less (shrinks_members ih n _ _ _ inner)
      split at read
      · split at read
        · rename_i s₁ bracket
          cases read
          exact less (length_expect bracket).le
        · simp only [Option.bind_eq_bind, Option.bind_eq_some_iff] at read
          obtain ⟨⟨vs, s₁⟩, inner, last⟩ := read
          cases last
          exact less (shrinks_items ih n _ _ _ inner)
      split at read
      · exact shrinks_keyword _ _ _ _ _ read
      split at read
      · exact shrinks_keyword _ _ _ _ _ read
      split at read
      · exact shrinks_keyword _ _ _ _ _ read
      · simp only [Option.bind_eq_bind, Option.bind_eq_some_iff] at read
        obtain ⟨⟨x, s₁⟩, inner, last⟩ := read
        cases last
        exact shrinks_number _ _ _ inner

/-- More nesting than a text is long is as good as any. -/
private theorem value_enough {n m : Nat} {s : Units} (enough : s.length < n)
    (enough' : s.length < m) :
    value n s = value m s := by
  induction n generalizing m s with
  | zero => omega
  | succ n ih =>
    obtain ⟨m, rfl⟩ := Nat.exists_eq_succ_of_ne_zero (show m ≠ 0 by omega)
    have short := length_skip s
    have agree (rest : Units) (t : Units) (less : t.length < rest.length + 1)
        (fits : rest.length < n) (fits' : rest.length < m) : value n t = value m t :=
      ih (by omega) (by omega)
    rw [value, value]
    cases starts : skip s with
    | nil => rfl
    | cons u rest =>
      rw [starts, List.length_cons] at short
      have fits : rest.length < n := by omega
      have fits' : rest.length < m := by omega
      have ms := @members_agree _ (value m) (shrinks_value n) _ (agree rest · · fits fits') n m rest
        (Nat.lt_succ_self _) fits fits'
      have vs := @items_agree _ (value m) (shrinks_value n) _ (agree rest · · fits fits') n m rest
        (Nat.lt_succ_self _) fits fits'
      simp only [ms, vs]

/-- The text says `v`, to a reader with room for any nesting that the text can have. -/
def Says (s : Units) (v : Value) : Prop :=
  ∀ n, s.length < n → ∃ rest, value n s = some (v, rest) ∧ skip rest = []

theorem parse_eq_some {s : Units} {v : Value} : parse s = some v ↔ Says s v := by
  have parsed : parse s = some v ↔
      ∃ rest, value (s.length + 1) s = some (v, rest) ∧ skip rest = [] := by
    unfold parse
    simp only [Option.bind_eq_bind, Option.bind_eq_some_iff, Option.ite_none_right_eq_some,
      Option.some.injEq, Prod.exists]
    constructor
    · rintro ⟨v, rest, read, nothing, rfl⟩
      exact ⟨rest, read, nothing⟩
    · rintro ⟨rest, read, nothing⟩
      exact ⟨v, rest, read, nothing, rfl⟩
  refine parsed.trans ⟨fun told n enough => ?_, fun told => told _ (Nat.lt_succ_self _)⟩
  rwa [value_enough enough (Nat.lt_succ_self _)]

/-! Numbers. -/

/-- What may stand behind a natural number. -/
def Ends (s : Units) : Prop :=
  ∀ u ∈ s.head?, isDigit u = false ∧ u ≠ 46 ∧ u ≠ 101 ∧ u ≠ 69

private theorem isDigit_encodeChar {c : Char} (digit : c.isDigit = true) :
    encodeChar c = [UInt16.ofNat c.toNat] ∧ isDigit (UInt16.ofNat c.toNat) = true ∧
      (UInt16.ofNat c.toNat).toNat = c.toNat := by
  obtain ⟨low, high⟩ : 48 ≤ c.toNat ∧ c.toNat ≤ 57 := by
    simpa [Char.isDigit, UInt32.le_iff_toNat_le] using digit
  have small : c.toNat < 0x10000 := by omega
  have unit : (UInt16.ofNat c.toNat).toNat = c.toNat := by
    rw [UInt16.toNat_ofNat']
    exact Nat.mod_eq_of_lt small
  refine ⟨encodeChar_small small, ?_, unit⟩
  simp [isDigit, unit, low, high]

private theorem digits_encode {cs : List Char} (digits : ∀ c ∈ cs, c.isDigit = true) :
    (∀ u ∈ encode cs, isDigit u = true) ∧
      ∀ k, (encode cs).foldl (fun n u => 10 * n + (u.toNat - 48)) k = Nat.ofDigitChars 10 cs k := by
  induction cs with
  | nil => simp
  | cons c cs ih =>
    obtain ⟨one, digit, code⟩ := isDigit_encodeChar (digits c List.mem_cons_self)
    obtain ⟨all, sum⟩ := ih fun d member => digits d (List.mem_cons_of_mem c member)
    rw [encode_cons, one, List.singleton_append]
    refine ⟨?_, fun k => ?_⟩
    · rw [List.forall_mem_cons]
      exact ⟨digit, all⟩
    · rw [List.foldl_cons, sum, code, Nat.ofDigitChars_cons]
      rfl

private theorem isDigit_of_mem_writeNatural (n : Nat) : ∀ u ∈ writeNatural n, isDigit u = true :=
  (digits_encode fun _ member => Nat.isDigit_of_mem_toDigits (by decide) (by decide) member).1

private theorem natOf_writeNatural (n : Nat) : natOf (writeNatural n) = n := by
  have sum := (@digits_encode (Nat.toDigits 10 n) fun _ member =>
    Nat.isDigit_of_mem_toDigits (by decide) (by decide) member).2 0
  exact sum.trans Nat.ofDigitChars_ten_toDigits

private theorem head_toDigits {n : Nat} (positive : 0 < n) :
    (Nat.toDigits 10 n).head? ≠ some (Char.ofNat 48) := by
  induction n using Nat.strongRecOn with
  | ind n ih =>
    by_cases small : n < 10
    · rw [Nat.toDigits_of_lt_base small]
      intro same
      have zero : n.digitChar = Char.ofNat 48 := Option.some.inj same
      exact positive.ne' (Nat.digitChar_eq_zero.mp zero)
    · rw [Nat.toDigits_of_base_le (by decide) (by omega),
        List.head?_append_of_ne_nil _ Nat.toDigits_ne_nil]
      exact ih (n / 10) (by omega) (by omega)

private theorem head_writeNatural (n : Nat) :
    writeNatural n ≠ [] ∧
      ¬ ((writeNatural n).length ≠ 1 ∧ (writeNatural n).head? = some 48) := by
  rcases Nat.eq_zero_or_pos n with rfl | positive
  · have written : writeNatural 0 = [48] := rfl
    rw [written]
    simp
  · obtain ⟨c, cs, digits⟩ := List.exists_cons_of_ne_nil (@Nat.toDigits_ne_nil n 10)
    have digit : c.isDigit = true :=
      Nat.isDigit_of_mem_toDigits (by decide) (by decide) (digits ▸ List.mem_cons_self)
    obtain ⟨one, _, code⟩ := isDigit_encodeChar digit
    have written : writeNatural n = UInt16.ofNat c.toNat :: encode cs := by
      rw [writeNatural, digits, encode_cons, one, List.singleton_append]
    rw [written]
    refine ⟨List.cons_ne_nil _ _, fun leading => ?_⟩
    have zero : (UInt16.ofNat c.toNat).toNat = 48 := by
      rw [Option.some.inj leading.2]
      rfl
    have first := head_toDigits positive
    rw [digits] at first
    exact first (congrArg some (by rw [← Char.ofNat_toNat c, ← code, zero]))

private theorem takeWhile_digits {digits s : Units} (all : ∀ u ∈ digits, isDigit u = true)
    (ends : Ends s) :
    (digits ++ s).takeWhile isDigit = digits ∧ (digits ++ s).dropWhile isDigit = s := by
  have stops : s.takeWhile isDigit = [] ∧ s.dropWhile isDigit = s := by
    cases s with
    | nil => exact ⟨rfl, rfl⟩
    | cons u rest =>
      have other := (ends u rfl).1
      rw [List.takeWhile_cons, List.dropWhile_cons, other]
      exact ⟨rfl, rfl⟩
  rw [List.takeWhile_append_of_pos all, List.dropWhile_append_of_pos all, stops.1, stops.2,
    List.append_nil]
  exact ⟨rfl, rfl⟩

private theorem fraction_none {s : Units} (ends : Ends s) : fraction s = some ([], s) := by
  cases s with
  | nil => rfl
  | cons u rest => rw [fraction, if_neg (ends u rfl).2.1]

private theorem exponent_none {s : Units} (ends : Ends s) : exponent s = some (0, s) := by
  cases s with
  | nil => rfl
  | cons u rest =>
    obtain ⟨_, _, small, large⟩ := ends u rfl
    rw [exponent, if_neg (by simp [small, large])]

theorem number_written {n : Nat} (small : n < 2 ^ 53) {s : Units} (ends : Ends s) :
    number (writeNatural n ++ s) = some (.finite n, s) := by
  obtain ⟨nonempty, leading⟩ := head_writeNatural n
  obtain ⟨taken, left⟩ := takeWhile_digits (isDigit_of_mem_writeNatural n) ends
  have unsigned : sign false (writeNatural n ++ s) = (false, writeNatural n ++ s) := by
    obtain ⟨u, rest, written⟩ := List.exists_cons_of_ne_nil nonempty
    have digit : isDigit u = true :=
      isDigit_of_mem_writeNatural n u (written ▸ List.mem_cons_self)
    have other : u ≠ 45 := by
      rintro rfl
      cases digit
    rw [written, List.cons_append, sign, if_neg other, if_neg (by simp)]
  unfold number
  simp only [unsigned, taken, left]
  rw [if_neg (not_or.mpr ⟨nonempty, leading⟩), fraction_none ends]
  simp [exponent_none ends, natOf_writeNatural, ofDecimal_natural small]

/-! Values. -/

private theorem skip_of_not_space {u : UInt16} (other : isSpace u = false) (s : Units) :
    skip (u :: s) = u :: s := by
  rw [skip, List.dropWhile_cons, other]
  rfl

private theorem expect_here {u : UInt16} (other : isSpace u = false) (s : Units) :
    expect u (u :: s) = some s := by
  rw [expect, skip_of_not_space other]
  exact if_pos rfl

private theorem expect_other {u v : UInt16} (other : isSpace v = false) (apart : v ≠ u)
    (s : Units) :
    expect u (v :: s) = none := by
  rw [expect, skip_of_not_space other]
  exact if_neg apart

private theorem starts_number {u : UInt16} (digit : isDigit u = true) :
    isSpace u = false ∧ u ≠ 34 ∧ u ≠ 123 ∧ u ≠ 91 ∧ u ≠ 110 ∧ u ≠ 116 ∧ u ≠ 102 := by
  have apart {k : UInt16} (other : isDigit k = false) : u ≠ k := by
    rintro rfl
    rw [digit] at other
    cases other
  refine ⟨?_, apart rfl, apart rfl, apart rfl, apart rfl, apart rfl, apart rfl⟩
  rw [isSpace, decide_eq_false (apart rfl), decide_eq_false (apart rfl),
    decide_eq_false (apart rfl), decide_eq_false (apart rfl)]
  rfl

private theorem writeText_append (cs : List Char) (s : Units) :
    writeText cs ++ s = 34 :: (cs.flatMap escape ++ 34 :: s) := by
  simp [writeText]

private theorem value_written {x : Scalar} (small : x.Exact) {s : Units} (ends : Ends s) (n : Nat) :
    value (n + 1) (x.write ++ s) = some (x.read, s) := by
  cases x with
  | natural k =>
    obtain ⟨u, rest, written⟩ := List.exists_cons_of_ne_nil (head_writeNatural k).1
    have digit : isDigit u = true :=
      isDigit_of_mem_writeNatural k u (written ▸ List.mem_cons_self)
    obtain ⟨solid, quote, brace, bracket, null, true_, false_⟩ := starts_number digit
    have read := number_written small ends
    rw [Scalar.write, Scalar.read]
    rw [written, List.cons_append] at read ⊢
    rw [value, skip_of_not_space solid]
    simp only [if_neg quote, if_neg brace, if_neg bracket, if_neg null, if_neg true_, if_neg false_,
      read]
    rfl
  | text cs =>
    have read := text_written cs s
    rw [Scalar.write, Scalar.read, writeText_append, value, skip_of_not_space rfl]
    simp only [if_true, read]
    rfl

private theorem ends_comma (s : Units) : Ends (44 :: s) := by
  rintro _ ⟨⟩
  exact ⟨rfl, by decide, by decide, by decide⟩

private theorem ends_brace (s : Units) : Ends (125 :: s) := by
  rintro _ ⟨⟩
  exact ⟨rfl, by decide, by decide, by decide⟩

private theorem ends_bracket (s : Units) : Ends (93 :: s) := by
  rintro _ ⟨⟩
  exact ⟨rfl, by decide, by decide, by decide⟩

/-- What the members of an object are read as. -/
def readMembers (fields : List (List Char × Scalar)) : List (Units × Value) :=
  fields.map fun m => (encode m.1, m.2.read)

section Nested

variable {n : Nat} {x : Scalar} {t : Units} (small : x.Exact) (ends : Ends t) (k : Nat)

include small ends

private theorem member_written (name : List Char) :
    members (value (n + 1)) (k + 1) (writeText name ++ 58 :: (x.write ++ t)) =
      match expect 44 t with
      | some s => (members (value (n + 1)) k s).map fun r => ((encode name, x.read) :: r.1, r.2)
      | none => (expect 125 t).map fun s => ([(encode name, x.read)], s) := by
  have quote (s : Units) : expect 34 (34 :: s) = some s := expect_here rfl s
  have colon (s : Units) : expect 58 (58 :: s) = some s := expect_here rfl s
  rw [writeText_append, members, quote]
  simp only [Option.bind_eq_bind, Option.bind_some, text_written, colon, value_written small ends]
  cases expect 44 t with
  | none =>
    cases expect 125 t with
    | none => rfl
    | some s => rfl
  | some s => exact Option.map_eq_bind.symm

private theorem item_written :
    items (value (n + 1)) (k + 1) (x.write ++ t) =
      match expect 44 t with
      | some s => (items (value (n + 1)) k s).map fun r => (x.read :: r.1, r.2)
      | none => (expect 93 t).map fun s => ([x.read], s) := by
  rw [items]
  simp only [Option.bind_eq_bind, Option.bind_some, value_written small ends]
  cases expect 44 t with
  | none =>
    cases expect 93 t with
    | none => rfl
    | some s => rfl
  | some s => exact Option.map_eq_bind.symm

end Nested

private theorem members_written {fields : List (List Char × Scalar)}
    (small : ∀ m ∈ fields, m.2.Exact)
    (some_ : fields ≠ []) (n : Nat) {k : Nat} (enough : fields.length ≤ k) (s : Units) :
    members (value (n + 1)) k (writeMembers fields ++ 125 :: s) = some (readMembers fields, s) := by
  induction fields using writeMembers.induct generalizing k with
  | case1 => exact absurd rfl some_
  | case2 name x =>
    obtain ⟨k, rfl⟩ := Nat.exists_eq_succ_of_ne_zero (show k ≠ 0 by simp at enough; omega)
    rw [writeMembers, List.append_assoc, List.cons_append,
      member_written (small _ List.mem_cons_self) (ends_brace s), expect_other rfl (by decide),
      expect_here rfl]
    rfl
  | case3 name x m rest ih =>
    obtain ⟨k, rfl⟩ := Nat.exists_eq_succ_of_ne_zero (show k ≠ 0 by simp at enough; omega)
    have read := ih (fun m member => small m (List.mem_cons_of_mem _ member))
      (List.cons_ne_nil _ _) (by simpa using enough)
    rw [writeMembers, List.append_assoc, List.append_assoc, List.cons_append, List.cons_append,
      member_written (small _ List.mem_cons_self) (ends_comma _), expect_here rfl]
    dsimp only
    rw [read]
    rfl

private theorem items_written {xs : List Scalar} (small : ∀ x ∈ xs, x.Exact) (some_ : xs ≠ [])
    (n : Nat) {k : Nat} (enough : xs.length ≤ k) (s : Units) :
    items (value (n + 1)) k (writeItems xs ++ 93 :: s) = some (xs.map Scalar.read, s) := by
  induction xs using writeItems.induct generalizing k with
  | case1 => exact absurd rfl some_
  | case2 x =>
    obtain ⟨k, rfl⟩ := Nat.exists_eq_succ_of_ne_zero (show k ≠ 0 by simp at enough; omega)
    rw [writeItems, item_written (small _ List.mem_cons_self) (ends_bracket s),
      expect_other rfl (by decide), expect_here rfl]
    rfl
  | case3 x y rest ih =>
    obtain ⟨k, rfl⟩ := Nat.exists_eq_succ_of_ne_zero (show k ≠ 0 by simp at enough; omega)
    have read := ih (fun y member => small y (List.mem_cons_of_mem _ member))
      (List.cons_ne_nil _ _) (by simpa using enough)
    rw [writeItems, List.append_assoc, List.cons_append,
      item_written (small _ List.mem_cons_self) (ends_comma _), expect_here rfl]
    dsimp only
    rw [read]
    rfl

/-! Whole texts. -/

private theorem length_writeText (cs : List Char) : 2 ≤ (writeText cs).length := by
  simp [writeText]

private theorem length_writeMembers (fields : List (List Char × Scalar)) :
    fields.length ≤ (writeMembers fields).length := by
  induction fields using writeMembers.induct with
  | case1 => exact Nat.le_refl 0
  | case2 name x =>
    simp [writeMembers]
    omega
  | case3 name x m rest ih =>
    have long := length_writeText name
    simp only [writeMembers, List.length_append, List.length_cons] at ih ⊢
    omega

private theorem length_writeItems (xs : List Scalar) : xs.length ≤ (writeItems xs).length + 1 := by
  induction xs using writeItems.induct with
  | case1 => exact Nat.zero_le _
  | case2 x => simp
  | case3 x y rest ih =>
    simp only [writeItems, List.length_append, List.length_cons] at ih ⊢
    omega

private theorem writeMembers_starts {fields : List (List Char × Scalar)} (some_ : fields ≠ []) :
    ∃ rest, writeMembers fields = 34 :: rest := by
  cases fields with
  | nil => exact absurd rfl some_
  | cons m rest =>
    cases rest with
    | nil => exact ⟨_, rfl⟩
    | cons m' rest => exact ⟨_, rfl⟩

/-- A flat object as it is written is read as itself. -/
theorem parse_writeObject {fields : List (List Char × Scalar)} (small : ∀ m ∈ fields, m.2.Exact) :
    parse (writeObject fields) = some (.object (readMembers fields)) := by
  have long := length_writeMembers fields
  have size : (writeObject fields).length = (writeMembers fields).length + 1 + 1 := by
    simp [writeObject]
  have read : value ((writeObject fields).length + 1) (writeObject fields) =
      some (.object (readMembers fields), []) := by
    rw [size, writeObject, List.cons_append, value, skip_of_not_space rfl]
    by_cases empty : fields = []
    · subst empty
      rfl
    · obtain ⟨rest, starts⟩ := writeMembers_starts empty
      have other : expect 125 (writeMembers fields ++ [125]) = none := by
        rw [starts]
        exact expect_other rfl (by decide) _
      have read := members_written small empty ((writeMembers fields).length + 1)
        (k := (writeMembers fields).length + 1 + 1) (by omega) []
      simp only [other, read]
      rfl
  unfold parse
  rw [read]
  rfl

private theorem write_starts (x : Scalar) :
    ∃ u rest, x.write = u :: rest ∧ isSpace u = false ∧ u ≠ 93 := by
  cases x with
  | natural n =>
    obtain ⟨u, rest, written⟩ := List.exists_cons_of_ne_nil (head_writeNatural n).1
    have digit : isDigit u = true :=
      isDigit_of_mem_writeNatural n u (written ▸ List.mem_cons_self)
    refine ⟨u, rest, written, (starts_number digit).1, ?_⟩
    rintro rfl
    cases digit
  | text cs => exact ⟨34, _, rfl, rfl, by decide⟩

private theorem writeItems_starts {xs : List Scalar} (some_ : xs ≠ []) :
    ∃ u rest, writeItems xs = u :: rest ∧ isSpace u = false ∧ u ≠ 93 := by
  cases xs with
  | nil => exact absurd rfl some_
  | cons x rest =>
    obtain ⟨u, more, written, solid, other⟩ := write_starts x
    cases rest with
    | nil => exact ⟨u, more, written, solid, other⟩
    | cons y rest =>
      refine ⟨u, more ++ 44 :: writeItems (y :: rest), ?_, solid, other⟩
      rw [writeItems, written, List.cons_append]

theorem parse_writeArray {xs : List Scalar} (small : ∀ x ∈ xs, x.Exact) :
    parse (writeArray xs) = some (.array (xs.map Scalar.read)) := by
  have long := length_writeItems xs
  have size : (writeArray xs).length = (writeItems xs).length + 1 + 1 := by
    simp [writeArray]
  have read : value ((writeArray xs).length + 1) (writeArray xs) =
      some (.array (xs.map Scalar.read), []) := by
    rw [size, writeArray, List.cons_append, value, skip_of_not_space rfl]
    by_cases empty : xs = []
    · subst empty
      rfl
    · obtain ⟨u, rest, starts, solid, apart⟩ := writeItems_starts empty
      have other : expect 93 (writeItems xs ++ [93]) = none := by
        rw [starts]
        exact expect_other solid apart _
      have read := items_written small empty ((writeItems xs).length + 1)
        (k := (writeItems xs).length + 1 + 1) (by omega) []
      simp only [other, read]
      rfl
  unfold parse
  rw [read]
  rfl

theorem Scalar.read_injective : Function.Injective Scalar.read := by
  intro x y same
  cases x with
  | natural n =>
    cases y with
    | natural m =>
      have equal : (n : ℚ) = m := Number.finite.inj (Value.number.inj same)
      rw [Nat.cast_injective equal]
    | text ds => cases same
  | text cs =>
    cases y with
    | natural m => cases same
    | text ds => rw [encode_injective (Value.string.inj same)]

theorem writeArray_injective {xs ys : List Scalar} (small : ∀ x ∈ xs, x.Exact)
    (small' : ∀ y ∈ ys, y.Exact) (same : writeArray xs = writeArray ys) : xs = ys := by
  have read := parse_writeArray small
  rw [same, parse_writeArray small'] at read
  exact (List.map_injective_iff.mpr Scalar.read_injective
    (Value.array.inj (Option.some.inj read))).symm

end EasyTierEdge.Lib.Json
