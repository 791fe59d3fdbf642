import Mathlib
import SourceAudit.Data.Json

/-! How texts and whole numbers are spelled in JSON and read back. -/

namespace SourceAudit

open List CodePoint Text Option

variable {p : CodePoint} {t : Text}

theorem Text.ofString_append (a b : String) : ofString (a ++ b) = ofString a ++ ofString b := by
  simp [ofString, ofChars, String.toList_append]

theorem Text.ofString_ofList (cs : List Char) : ofString (String.ofList cs) = cs.map ofChar := by simp [ofString, ofChars]

theorem CodePoint.val_ofNat {n : Nat} (small : n < 0x110000) : (ofNat n).val = n := by simp [ofNat, small]

theorem CodePoint.ofNat_val (p : CodePoint) : ofNat p.val = p := by simp [ofNat]

theorem CodePoint.val_ofChar (c : Char) : (ofChar c).val = c.toNat := by
  have valid : c.toNat < 0xD800 ∨ 0xDFFF < c.toNat ∧ c.toNat < 0x110000 := c.valid
  exact val_ofNat (by omega)

theorem CodePoint.ofChar_toChar (proper : p.isSurrogate = false) : ofChar p.toChar = p := by
  have bounds : p.val < 0xD800 ∨ 0xE000 ≤ p.val := by
    simp only [isSurrogate, Bool.and_eq_false_iff, decide_eq_false_iff_not] at proper
    omega
  have valid : p.val.isValidChar := by
    omega
  rw [toChar, toChar?, proper]
  have kept : (Char.ofNat p.val).toNat = p.val := by simp [Char.ofNat, valid, Char.toNat, Char.ofNatAux, UInt32.toNat]
  simp only [Bool.false_eq_true, if_false, getD_some, ofChar, kept, ofNat_val]

namespace Escape

def paddedDigits : Nat → Nat → List Char
  | 0, _ => []
  | width + 1, n => paddedDigits width (n / 16) ++ [(n % 16).digitChar]

theorem paddedDigits_zero (width : Nat) : paddedDigits width 0 = replicate width '0' := by
  induction width with
  | zero => rfl
  | succ width ih =>
    rw [paddedDigits, Nat.zero_div, ih, replicate_succ']
    rfl

theorem toList_hex {width n : Nat} (small : n < 16 ^ (width + 1)) :
    (hex (width + 1) n).toList = paddedDigits (width + 1) n := by
  induction width generalizing n with
  | zero =>
    have digit : n < 16 := by simpa using small
    simp [hex, paddedDigits, Nat.toDigits_of_lt_base digit, Nat.mod_eq_of_lt digit]
  | succ width ih =>
    by_cases digit : n < 16
    · have last : n % 16 = n := Nat.mod_eq_of_lt digit
      have none : n / 16 = 0 := Nat.div_eq_of_lt digit
      rw [paddedDigits, none, paddedDigits_zero, last]
      simp [hex, Nat.toDigits_of_lt_base digit]
    · have fewer : n / 16 < 16 ^ (width + 1) := by
        rw [Nat.div_lt_iff_lt_mul (by decide)]
        rwa [Nat.pow_succ] at small
      have before := ih fewer
      rw [paddedDigits, ← before]
      simp [hex, Nat.toDigits_of_base_le (b := 16) (by decide) (Nat.le_of_not_lt digit), Nat.add_sub_add_right]

theorem hexValue?_digitChar {d : Nat} (digit : d < 16) : hexValue? (ofChar d.digitChar) = some d := by
  have all : ∀ d < 16, hexValue? (ofChar (Nat.digitChar d)) = some d := by decide
  exact all d digit

theorem hexRun?_add {first second n m : Nat} {rest rest' : Text}
    (begun : hexRun? first t = some (n, rest)) (ended : hexRun? second rest = some (m, rest')) :
    hexRun? (first + second) t = some (n * 16 ^ second + m, rest') := by
  induction first generalizing t n with
  | zero =>
    obtain ⟨rfl, rfl⟩ := begun
    simpa using ended
  | succ first ih =>
    cases t with
    | nil => simp [hexRun?] at begun
    | cons p t =>
      simp only [hexRun?, Option.bind_eq_bind, Option.bind_eq_some_iff, Option.pure_def, Option.some.injEq,
        Prod.mk.injEq, Prod.exists] at begun
      obtain ⟨d, digit, _, _, run, rfl, rfl⟩ := begun
      have both := ih run
      rw [Nat.add_right_comm]
      simp only [hexRun?, digit, both, Option.bind_eq_bind, Option.bind_some, Option.pure_def, Nat.pow_eq,
        Nat.pow_add, Nat.add_mul, Nat.add_assoc, Nat.mul_assoc]

theorem hexRun?_paddedDigits (width n : Nat) (rest : Text) :
    hexRun? width ((paddedDigits width n).map ofChar ++ rest) = some (n % 16 ^ width, rest) := by
  induction width generalizing n rest with
  | zero => simp [hexRun?, paddedDigits, Nat.mod_one]
  | succ width ih =>
    have last : hexRun? 1 (ofChar (n % 16).digitChar :: rest) = some (n % 16, rest) := by
      simp [hexRun?, hexValue?_digitChar (Nat.mod_lt n (by decide : 0 < 16))]
    have whole := hexRun?_add (ih (n / 16) (ofChar (n % 16).digitChar :: rest)) last
    have value : n / 16 % 16 ^ width * 16 ^ 1 + n % 16 = n % 16 ^ (width + 1) := by
      rw [Nat.pow_one, Nat.pow_succ', Nat.mod_mul]
      omega
    rw [value] at whole
    simpa [paddedDigits] using whole

theorem hexRun?_hex {width n : Nat} (small : n < 16 ^ (width + 1)) (rest : Text) :
    hexRun? (width + 1) (ofString (hex (width + 1) n) ++ rest) = some (n, rest) := by
  rw [ofString, toList_hex small, ofChars, hexRun?_paddedDigits, Nat.mod_eq_of_lt small]

end Escape

namespace Json

def isHigh (p : CodePoint) : Bool := 0xD800 ≤ p.val && p.val < 0xDC00

def isLow (p : CodePoint) : Bool := 0xDC00 ≤ p.val && p.val < 0xE000

def joined : Text → Text
  | p :: q :: rest =>
    if isHigh p && isLow q then
      CodePoint.ofNat (0x10000 + (p.val - 0xD800) * 0x400 + (q.val - 0xDC00)) :: joined rest
    else p :: joined (q :: rest)
  | t => t

theorem joined_of_proper (proper : ∀ p ∈ t, p.isSurrogate = false) : joined t = t := by
  fun_induction joined t with
  | case1 p q rest pair ih =>
    have high := proper p mem_cons_self
    simp only [isHigh, isLow, isSurrogate, Bool.and_eq_true, decide_eq_true_eq,
      Bool.and_eq_false_iff, decide_eq_false_iff_not] at pair high
    omega
  | case2 p q rest pair ih => rw [ih fun r later => proper r (mem_cons_of_mem p later)]
  | case3 t short => rfl

def escaped (n : Nat) : Text := 92 :: 117 :: Text.ofString (Escape.hex 4 n)

theorem ofString_unit (n : Nat) : ofString (unit n) = escaped n := by
  have mark : ofString "\\u" = [92, 117] := by decide
  rw [unit, ofString_append, mark, escaped, cons_append, cons_append, nil_append]

def spelled (t : Text) : Text := t.flatMap fun p => Text.ofString (writePoint p)

theorem ofString_writeText (t : Text) : ofString (writeText t) = 34 :: (spelled t ++ [34]) := by
  have along : ∀ s, ofString (t.foldl (fun s p => s ++ writePoint p) s) = ofString s ++ spelled t := by
    induction t with
    | nil => simp [spelled]
    | cons p rest ih =>
      intro s
      rw [foldl_cons, ih, ofString_append]
      simp [spelled]
  rw [writeText, ofString_append, along]
  rfl

inductive Spelled (p : CodePoint) : Text → Prop
  | letter {e : CodePoint} (other : e ≠ 117) (means : ((47, 47) :: letters).lookup e.val = some p.val) :
      Spelled p [92, e]
  | itself (unquoted : p ≠ 34) (unmarked : p ≠ 92) (printable : 32 ≤ p.val) : Spelled p [p]
  | number (small : p.val < 0x10000) : Spelled p (escaped p.val)
  | pair (large : 0x10000 ≤ p.val) :
      Spelled p (escaped (0xD800 + (p.val - 0x10000) / 0x400) ++ escaped (0xDC00 + (p.val - 0x10000) % 0x400))

theorem spelled_writePoint (p : CodePoint) : Spelled p (ofString (writePoint p)) := by
  unfold writePoint
  split
  · rename_i e c found
    have all : ∀ m ∈ letters, m.1 < 0x110000 ∧ m.1 ≠ 117 ∧ ((47, 47) :: letters).lookup m.1 = some m.2 ∧
        (Char.ofNat m.1).toNat = m.1 := by decide
    obtain ⟨small, other, means, kept⟩ := all _ (mem_of_find?_eq_some found)
    have same : c = p.val := by simpa using find?_some found
    have letter : ofChar (Char.ofNat e) = ofNat e := by rw [ofChar, kept]
    rw [ofString_ofList, map_cons, map_singleton, letter]
    refine .letter ?_ ?_
    · intro is
      rw [← val_ofNat small, is] at other
      exact other rfl
    · rw [val_ofNat small, means, same]
  rename_i unlisted
  have unquoted : p ≠ 34 := by
    rintro rfl
    exact absurd unlisted (by decide)
  have unmarked : p ≠ 92 := by
    rintro rfl
    exact absurd unlisted (by decide)
  split
  · rename_i printable
    simp only [Bool.and_eq_true, decide_eq_true_eq] at printable
    have proper : p.isSurrogate = false := by
      simp only [isSurrogate, Bool.and_eq_false_iff, decide_eq_false_iff_not]
      omega
    have alone : ofString (String.singleton p.toChar) = [p] := by simp [ofString, ofChars, ofChar_toChar proper]
    exact alone ▸ .itself unquoted unmarked printable.1
  split
  · rename_i small
    exact ofString_unit p.val ▸ .number small
  · rename_i large
    rw [ofString_append, ofString_unit, ofString_unit]
    exact .pair (Nat.le_of_not_lt large)

def prepend (p : CodePoint) (read : Option (Text × Text)) : Option (Text × Text) :=
  read.bind fun (t, rest) => some (p :: t, rest)

theorem textBody_letter {e : CodePoint} (other : e ≠ 117)
    (means : ((47, 47) :: letters).lookup e.val = some p.val) (fuel : Nat) (rest : Text) :
    textBody (fuel + 1) (92 :: e :: rest) = prepend p (textBody fuel rest) := by
  rw [textBody, if_neg (by decide), if_pos (by decide)]
  simp only [beq_iff_eq, other, if_false, means, Option.bind_eq_bind, Option.bind_some, ofNat_val]
  rfl

theorem textBody_itself (unquoted : p ≠ 34) (unmarked : p ≠ 92) (printable : 32 ≤ p.val)
    (fuel : Nat) (rest : Text) : textBody (fuel + 1) (p :: rest) = prepend p (textBody fuel rest) := by
  have notBelow : ¬ p.val < 32 := by omega
  rw [textBody.eq_def]
  simp only [beq_iff_eq, unquoted, unmarked, notBelow, if_false]
  rfl

theorem hexRun?_escaped {n : Nat} (small : n < 0x10000) (rest : Text) :
    Escape.hexRun? 4 (ofString (Escape.hex 4 n) ++ rest) = some (n, rest) :=
  @Escape.hexRun?_hex 3 n small rest

theorem textBody_escaped {n : Nat} (small : n < 0x10000) (fuel : Nat) (rest : Text) :
    textBody (fuel + 1) (escaped n ++ rest) = prepend (ofNat ((joinedEscape? n rest).getD (n, rest)).1)
        (textBody fuel ((joinedEscape? n rest).getD (n, rest)).2) := by
  rw [escaped, cons_append, cons_append, textBody, if_neg (by decide), if_pos (by decide)]
  simp only [beq_self_eq_true, if_true, hexRun?_escaped small, Option.bind_eq_bind, Option.bind_some]
  rfl

theorem joinedEscape?_escaped {n m : Nat} (high : 0xD800 ≤ n ∧ n < 0xDC00) (low : 0xDC00 ≤ m ∧ m < 0xE000) (rest : Text) :
    joinedEscape? n (escaped m ++ rest) = some (0x10000 + (n - 0xD800) * 0x400 + (m - 0xDC00), rest) := by
  rw [escaped, cons_append, cons_append, joinedEscape?]
  simp only [high, low, decide_true, Bool.and_self, if_true, hexRun?_escaped (n := m) (by omega),
    Option.bind_eq_bind, Option.bind_some]

theorem joinedEscape?_spelled {q : CodePoint} {x : Text} (spelling : Spelled q x) (apart : isLow q = false)
    (n : Nat) (rest : Text) : joinedEscape? n (x ++ rest) = none := by
  have unjoined {m : Nat} (small : m < 0x10000) (apart : ¬ (0xDC00 ≤ m ∧ m < 0xE000)) (rest : Text) :
      joinedEscape? n (escaped m ++ rest) = none := by
    rw [escaped, cons_append, cons_append, joinedEscape?]
    have other : (decide (0xDC00 ≤ m) && decide (m < 0xE000)) = false := by simpa using apart
    simp only [hexRun?_escaped small, Option.bind_eq_bind, Option.bind_some, other, Bool.false_eq_true, if_false,
      ite_self]
  simp only [isLow, Bool.and_eq_false_iff, decide_eq_false_iff_not] at apart
  cases spelling with
  | letter other means =>
    unfold joinedEscape?
    split
    · split
      · rename_i same
        simp only [cons_append, nil_append, List.cons.injEq, true_and] at same
        exact absurd same.1 other
      · rfl
    · rfl
  | itself unquoted unmarked printable =>
    unfold joinedEscape?
    split
    · split
      · rename_i same
        simp only [cons_append, nil_append, List.cons.injEq] at same
        exact absurd same.1 unmarked
      · rfl
    · rfl
  | number small => exact unjoined small (by omega) rest
  | pair large =>
    rw [append_assoc]
    exact unjoined (by omega) (by omega) _

theorem writePoint_of_surrogate (surrogate : p.isSurrogate) : ofString (writePoint p) = escaped p.val := by
  simp only [isSurrogate, Bool.and_eq_true, decide_eq_true_eq] at surrogate
  have unlisted : ∀ e ∈ letters, e.2 ≠ p.val := by
    simp [letters]
    omega
  have unprintable : ¬ ((decide (32 ≤ p.val) && decide (p.val < 127)) = true) := by
    simp
    omega
  unfold writePoint
  split
  · rename_i e c found
    have same := List.find?_some found
    dsimp only at same
    exact absurd (eq_of_beq same) (unlisted (e, c) (List.mem_of_find?_eq_some found))
  · simp only [unprintable, if_false, Bool.false_eq_true, (by omega : p.val < 0x10000), if_true]
    exact ofString_unit p.val

theorem textBody_writePoint {follows : Text} (apart : isHigh p = true → joinedEscape? p.val follows = none) (fuel : Nat) :
    textBody (fuel + 1) (ofString (writePoint p) ++ follows) = prepend p (textBody fuel follows) := by
  generalize ofString (writePoint p) = x, spelled_writePoint p = spelling
  cases spelling with
  | letter other means => exact textBody_letter other means fuel follows
  | itself unquoted unmarked printable => exact textBody_itself unquoted unmarked printable fuel follows
  | number small =>
    have unjoined : joinedEscape? p.val follows = none := by
      by_cases high : isHigh p = true
      · exact apart high
      · exact if_neg (by simpa only [isHigh] using high)
    rw [textBody_escaped small, unjoined, getD_none, ofNat_val]
  | pair large =>
    have both := joinedEscape?_escaped (n := 0xD800 + (p.val - 0x10000) / 0x400)
      (m := 0xDC00 + (p.val - 0x10000) % 0x400) (by omega) (by omega) follows
    have whole : 0x10000 + (0xD800 + (p.val - 0x10000) / 0x400 - 0xD800) * 0x400 +
        (0xDC00 + (p.val - 0x10000) % 0x400 - 0xDC00) = p.val := by omega
    rw [append_assoc, textBody_escaped (by omega), both, getD_some, whole, ofNat_val]

theorem length_writePoint_pos (p : CodePoint) : 0 < (ofString (writePoint p)).length := by
  generalize ofString (writePoint p) = x, spelled_writePoint p = spelling
  cases spelling <;> exact Nat.zero_lt_succ _

theorem spelled_cons (p : CodePoint) (t : Text) : spelled (p :: t) = ofString (writePoint p) ++ spelled t := by
  simp [spelled]

theorem textBody_quote (fuel : Nat) (rest : Text) : textBody (fuel + 1) (34 :: rest) = some ([], rest) := by
  rfl

theorem textBody_spelled {fuel : Nat} (enough : (spelled t).length < fuel) (rest : Text) :
    textBody fuel (spelled t ++ 34 :: rest) = some (joined t, rest) := by
  obtain ⟨fuel, rfl⟩ := Nat.exists_eq_succ_of_ne_zero (Nat.ne_of_gt (Nat.zero_lt_of_lt enough))
  -- the induction is that of joining, so that a pair is one step
  fun_induction joined t generalizing fuel with
  | case1 p q later pair ih =>
    rw [Bool.and_eq_true] at pair
    obtain ⟨high, low⟩ := pair
    simp only [isHigh, Bool.and_eq_true, decide_eq_true_eq] at high
    simp only [isLow, Bool.and_eq_true, decide_eq_true_eq] at low
    have first := writePoint_of_surrogate (p := p) (by simp [isSurrogate]; omega)
    have second := writePoint_of_surrogate (p := q) (by simp [isSurrogate]; omega)
    have positive := length_writePoint_pos q
    rw [spelled_cons, spelled_cons, length_append, length_append] at enough
    obtain ⟨fuel, rfl⟩ := Nat.exists_eq_succ_of_ne_zero (n := fuel) (by omega)
    rw [spelled_cons, spelled_cons, first, second, append_assoc, append_assoc,
      textBody_escaped (by omega), joinedEscape?_escaped high low, getD_some, ih fuel (by omega)]
    rfl
  | case2 p q later pair ih =>
    have unjoined : isHigh p = true → joinedEscape? p.val (spelled (q :: later) ++ 34 :: rest) = none := by
      intro high
      have apart : isLow q = false := by simpa [high] using pair
      rw [spelled_cons, append_assoc]
      exact joinedEscape?_spelled (spelled_writePoint q) apart p.val _
    have positive := length_writePoint_pos p
    rw [spelled_cons p, length_append] at enough
    obtain ⟨fuel, rfl⟩ := Nat.exists_eq_succ_of_ne_zero (n := fuel) (by omega)
    rw [spelled_cons p, append_assoc, textBody_writePoint unjoined, ih fuel (by omega)]
    rfl
  | case3 t short =>
    match t with
    | [] => exact textBody_quote fuel rest
    | [p] =>
      have unjoined : isHigh p = true → joinedEscape? p.val (34 :: rest) = none := by
        intro high
        unfold joinedEscape?
        split <;> rfl
      have positive := length_writePoint_pos p
      rw [spelled_cons p, length_append] at enough
      obtain ⟨fuel, rfl⟩ := Nat.exists_eq_succ_of_ne_zero (n := fuel) (by omega)
      change textBody _ ((ofString (writePoint p) ++ []) ++ 34 :: rest) = _
      rw [append_nil, textBody_writePoint unjoined, textBody_quote]
      rfl
    | p :: q :: later => exact absurd rfl (short p q later)

def Ends (rest : Text) : Prop := ∀ p ∈ rest.head?, isDigit p = false ∧ p ≠ 46 ∧ p ≠ 101 ∧ p ≠ 69

section

variable {rest : Text} (ends : Ends rest)

include ends

theorem Ends.fraction : fraction rest = ([], rest) := by
  unfold Json.fraction
  split
  · exact absurd rfl (ends 46 rfl).2.1
  · rfl

theorem Ends.exponent : exponent rest = (none, rest) := by
  cases rest with
  | nil => rfl
  | cons p more =>
    obtain ⟨-, -, small, large⟩ := ends p rfl
    rw [Json.exponent, if_neg (by simp [small, large])]

theorem Ends.takeWhile : rest.takeWhile isDigit = [] := by
  cases rest with
  | nil => rfl
  | cons p more => rw [takeWhile_cons, (ends p rfl).1, if_neg Bool.false_ne_true]

theorem Ends.dropWhile : rest.dropWhile isDigit = rest := by
  cases rest with
  | nil => rfl
  | cons p more => rw [dropWhile_cons, (ends p rfl).1, if_neg Bool.false_ne_true]

end

def decimal (m : Nat) : Text := (Nat.toDigits 10 m).map CodePoint.ofChar

theorem isDigit_of_mem_decimal {m : Nat} (mem : p ∈ decimal m) : isDigit p = true := by
  obtain ⟨c, digit, rfl⟩ := mem_map.mp mem
  have bounds := Nat.isDigit_of_mem_toDigits (by decide) (by decide) digit
  simp only [Char.isDigit, Bool.and_eq_true, decide_eq_true_eq, ge_iff_le, UInt32.le_iff_toNat_le] at bounds
  simp only [isDigit, val_ofChar, Bool.and_eq_true, decide_eq_true_eq]
  exact bounds

theorem exists_decimal (m : Nat) : ∃ d more, decimal m = d :: more ∧ isDigit d = true := by
  cases digits : decimal m with
  | nil => exact absurd (map_eq_nil_iff.mp digits) Nat.toDigits_ne_nil
  | cons d more => exact ⟨d, more, rfl, isDigit_of_mem_decimal (digits ▸ mem_cons_self)⟩

theorem ofString_repr (m : Nat) : ofString m.repr = decimal m := by
  rw [Nat.repr_eq_ofList_toDigits, ofString_ofList, decimal]

theorem ofString_negSucc (m : Nat) : ofString (toString (Int.negSucc m)) = 45 :: decimal (m + 1) := by
  have minus : ofString "-" = [45] := by decide
  change ofString ("-" ++ (m + 1).repr) = _
  rw [ofString_append, ofString_repr, minus, singleton_append]

theorem digitsValue_decimal (m : Nat) : digitsValue (decimal m) = m := by
  have value := Nat.ofDigitChars_toDigits (b := 10) (n := m) (by decide) (by decide)
  simp only [digitsValue, decimal, foldl_map, val_ofChar]
  exact value

theorem eq_zero_of_decimal {m : Nat} {more : Text} (begins : decimal m = 48 :: more) : m = 0 := by
  induction m using Nat.strongRecOn generalizing more with
  | ind m ih =>
    by_cases digit : m < 10
    · have all : ∀ m < 10, ofChar (Nat.digitChar m) = 48 → m = 0 := by decide
      rw [decimal, Nat.toDigits_of_lt_base digit, map_singleton, List.cons.injEq] at begins
      exact all m digit begins.1
    · have less : m / 10 < m := Nat.div_lt_self (by omega) (by decide)
      rw [decimal, Nat.toDigits_of_base_le (by decide) (by omega), map_append] at begins
      cases first : (Nat.toDigits 10 (m / 10)).map ofChar with
      | nil => exact absurd (map_eq_nil_iff.mp first) Nat.toDigits_ne_nil
      | cons p others =>
        rw [first, cons_append, List.cons.injEq] at begins
        have none : m / 10 = 0 := by
          refine @ih (m / 10) less others ?_
          rw [decimal, first, begins.1]
        omega

theorem unsigned_decimal (negative : Bool) (m : Nat) {rest : Text} (ends : Ends rest) :
    unsigned negative (decimal m ++ rest) = some (.int (if negative then -m else m), rest) := by
  have taken : (decimal m ++ rest).takeWhile isDigit = decimal m := by
    rw [takeWhile_append_of_pos fun p mem => isDigit_of_mem_decimal mem, ends.takeWhile, append_nil]
  have left : (decimal m ++ rest).dropWhile isDigit = rest := by
    rw [dropWhile_append_of_pos fun p mem => isDigit_of_mem_decimal mem, ends.dropWhile]
  have value := digitsValue_decimal m
  rw [unsigned, taken, left]
  obtain ⟨d, more, digits, -⟩ := exists_decimal m
  rw [digits] at value ⊢
  by_cases zero : d = 48
  · subst zero
    obtain rfl := eq_zero_of_decimal digits
    obtain rfl : more = [] := by
      have whole : decimal 0 = [48] := by decide
      rw [whole, List.cons.injEq] at digits
      exact digits.2.symm
    simp [ends.fraction, ends.exponent, value]
  · simp [zero, ends.fraction, ends.exponent, value]

theorem number_toString (n : Int) {rest : Text} (ends : Ends rest) :
    number (ofString (toString n) ++ rest) = some (.int n, rest) := by
  cases n with
  | ofNat m =>
    have unsignedNumber : number (decimal m ++ rest) = unsigned false (decimal m ++ rest) := by
      obtain ⟨d, _, digits, digit⟩ := exists_decimal m
      unfold number
      split
      · rename_i begins
        rw [digits, cons_append, List.cons.injEq] at begins
        exact absurd (begins.1 ▸ digit) (by decide)
      · rfl
    change number (ofString m.repr ++ rest) = _
    rw [ofString_repr, unsignedNumber, unsigned_decimal false m ends]
    rfl
  | negSucc m =>
    rw [ofString_negSucc, cons_append, number, unsigned_decimal true (m + 1) ends]
    rfl

end Json

end SourceAudit
