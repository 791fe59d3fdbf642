import SourceAudit.Proofs.Spelling
import SourceAudit.Rule.Basic

/-! Texts written in printable ASCII are read back, so that escaping once more changes nothing. -/

namespace SourceAudit

open List CodePoint Text

variable {named : String → Option CodePoint} {p : CodePoint} {t code : Text} {fuel : Nat}

def CodePoint.IsPlain (p : CodePoint) : Prop := 32 ≤ p.val ∧ p.val < 127

instance : DecidablePred IsPlain := fun _ => inferInstanceAs (Decidable (_ ∧ _))

namespace Escape

def Spells (named : String → Option CodePoint) (code : Text) (p : CodePoint) : Prop :=
  (∀ q ∈ code, q.IsPlain) ∧ ∀ rest, read? named (code ++ rest) = some ([p], rest)

theorem isPlain_paddedDigits (width n : Nat) : ∀ p ∈ (paddedDigits width n).map ofChar, p.IsPlain := by
  induction width generalizing n with
  | zero => exact fun _ => nofun
  | succ width ih =>
    have digits : ∀ d < 16, 32 ≤ (ofChar (Nat.digitChar d)).val ∧ (ofChar (Nat.digitChar d)).val < 127 := by decide
    intro p mem
    rw [paddedDigits, map_append, mem_append, map_singleton, mem_singleton] at mem
    obtain before | rfl := mem
    · exact ih (n / 16) p before
    · exact digits (n % 16) (Nat.mod_lt n (by decide))

theorem exists_spells_hex {mark : String} (letter : CodePoint) {width : Nat} (small : p.val < 16 ^ (width + 1))
    (marked : ofString mark = [92, letter]) (plain : letter.IsPlain)
    (reads : ∀ t, read? named (letter :: t) = do
      let (n, rest) ← hexRun? (width + 1) t
      if n < 0x110000 then some ([ofNat n], rest) else none) :
    ∃ code, ofString (mark ++ hex (width + 1) p.val) = 92 :: code ∧ Spells named code p := by
  refine ⟨letter :: ofString (hex (width + 1) p.val), ?_, ?_, fun rest => ?_⟩
  · rw [ofString_append, marked, cons_append, singleton_append]
  · rw [forall_mem_cons, ofString, toList_hex small]
    exact ⟨plain, isPlain_paddedDigits _ _⟩
  · rw [cons_append, reads, hexRun?_hex small]
    simp [p.isLt, ofNat_val]

theorem exists_spells_simple {mark : String} (letter : CodePoint) (marked : ofString mark = [92, letter])
    (plain : letter.IsPlain) {n : Nat} (same : p.val == n)
    (reads : ∀ t, read? named (letter :: t) = some ([ofNat n], t)) :
    ∃ code, ofString mark = 92 :: code ∧ Spells named code p := by
  refine ⟨[letter], marked, forall_mem_singleton.mpr plain, fun rest => ?_⟩
  rw [singleton_append, reads, ← beq_iff_eq.mp same, ofNat_val]

/-- A code point is written as itself, if it is plain and no backslash, or by an escape. -/
theorem encodePoint_cases (named : String → Option CodePoint) (p : CodePoint) :
    ofString (encodePoint p) = [p] ∧ p.IsPlain ∧ p.val ≠ 92 ∨
      ∃ code, ofString (encodePoint p) = 92 :: code ∧ Spells named code p := by
  rw [encodePoint]
  split_ifs with backslash tab line back plain byte wide
  · exact .inr (exists_spells_simple 92 (by decide) (by decide) backslash fun _ => rfl)
  · exact .inr (exists_spells_simple 116 (by decide) (by decide) tab fun _ => rfl)
  · exact .inr (exists_spells_simple 110 (by decide) (by decide) line fun _ => rfl)
  · exact .inr (exists_spells_simple 114 (by decide) (by decide) back fun _ => rfl)
  · obtain ⟨low, high⟩ : 32 ≤ p.val ∧ p.val < 127 := by simpa using plain
    have kept : ofChar (Char.ofNat p.val) = p := by
      have whole : p.isSurrogate = false := by simp [isSurrogate]; omega
      simpa [toChar, toChar?, whole] using ofChar_toChar whole
    exact .inl ⟨by simp [ofString, ofChars, kept], ⟨low, high⟩, by simpa using backslash⟩
  · exact .inr (exists_spells_hex 120 byte (by decide) (by decide) fun _ => rfl)
  · exact .inr (exists_spells_hex 117 wide (by decide) (by decide) fun _ => rfl)
  · exact .inr (exists_spells_hex 85 (Nat.lt_trans p.isLt (by decide)) (by decide) (by decide) fun _ => rfl)

theorem isPlain_encode (t : Text) : ∀ p ∈ encode t, p.IsPlain := by
  intro q written
  obtain ⟨p, -, mem⟩ := mem_flatMap.mp written
  obtain ⟨self, plain, -⟩ | ⟨code, escape, codes, -⟩ := encodePoint_cases (fun _ => none) p
  · rw [self, mem_singleton] at mem
    exact mem ▸ plain
  · rw [escape] at mem
    exact (forall_mem_cons.mpr ⟨by decide, codes⟩ : ∀ q ∈ 92 :: code, q.IsPlain) q mem

theorem go_encode (enough : t.length ≤ fuel) : decode?.go named fuel (encode t) = some t := by
  induction t generalizing fuel with
  | nil => cases fuel <;> rfl
  | cons p t ih =>
    obtain ⟨fuel, rfl⟩ := Nat.exists_eq_add_of_le' (Nat.one_le_of_lt enough)
    have later := ih (Nat.le_of_succ_le_succ enough)
    rw [encode] at later ⊢
    rw [flatMap_cons]
    obtain ⟨self, -, other⟩ | ⟨_, escape, -, reads⟩ := encodePoint_cases named p
    · rw [self, singleton_append, decode?.go, if_neg (by simpa using other), later]
      rfl
    · rw [escape, cons_append, decode?.go, if_pos (by decide), reads]
      simp only [Option.bind_eq_bind, Option.bind_some, later]
      rfl

theorem length_le_encode (t : Text) : t.length ≤ (encode t).length := by
  induction t with
  | nil => exact Nat.le_refl 0
  | cons p t ih =>
    rw [encode] at ih ⊢
    obtain ⟨self, -⟩ | ⟨_, escape, -⟩ := encodePoint_cases (fun _ => none) p
    · rw [flatMap_cons, self, length_append, length_cons, length_singleton]
      omega
    · rw [flatMap_cons, escape, length_append, length_cons, length_cons]
      omega

/-- Texts are read back from what is written for them. -/
theorem decode?_encode (t : Text) : decode? named (encode t) = some t := go_encode (length_le_encode t)

end Escape

namespace Context

/-- What is written for a text is printable ASCII, and as bytes it is escaped to itself. -/
theorem escapeBytes_encode (t : Text) : ∃ b : Bytes, Bytes.toText b = Escape.encode t ∧
    (∀ x ∈ b, 32 ≤ x ∧ x < 127) ∧ escapeBytes b = .ok (Escape.encode t) := by
  have plain := Escape.isPlain_encode t
  have byte : ∀ p ∈ Escape.encode t, p.val.toUInt8.toNat = p.val := by
    intro p mem
    have := plain p mem
    simp [IsPlain] at this ⊢
    omega
  have kept : Bytes.toText ((Escape.encode t).map fun p => p.val.toUInt8) = Escape.encode t := by
    rw [Bytes.toText, map_map]
    refine (map_congr_left fun p mem => ?_).trans (map_id _)
    rw [Function.comp_apply, byte p mem, ofNat_val, id]
  refine ⟨_, kept, ?_, by rw [escapeBytes, kept, Escape.decode?_encode]⟩
  intro x mem
  obtain ⟨p, written, rfl⟩ := mem_map.mp mem
  simpa [IsPlain, UInt8.le_iff_toNat_le, UInt8.lt_iff_toNat_lt, byte p written] using plain p written

/-- Escaping gives printable ASCII, and leaves what it gives as it is, for bytes as for texts. -/
theorem escaped_normal (b : Bytes) :
    (∀ t, escapeBytes b = .ok t → ∃ bytes : Bytes, Bytes.toText bytes = t ∧ (∀ x ∈ bytes, 32 ≤ x ∧ x < 127) ∧
      escapeBytes bytes = .ok t) ∧
    ∀ (c : Context) (s : Text), ∃ bytes : Bytes, { c with text := some s }.escaped = .ok (some (Bytes.toText bytes)) ∧
      escapeBytes bytes = .ok (Bytes.toText bytes) := by
  constructor
  · intro t done
    rw [escapeBytes] at done
    split at done
    · cases done
      exact escapeBytes_encode _
    · cases done
  · intro c s
    obtain ⟨bytes, kept, -, same⟩ := escapeBytes_encode s
    exact ⟨bytes, by rw [escaped, kept], by rw [same, kept]⟩

theorem escaped_normal_mixed : escapeBytes [92, 51, 53, 49, 92, 113, 255] = .ok "\\xe9\\\\q\\xff" ∧
    ∃ bytes : Bytes, Bytes.toText bytes = ("\\xe9\\\\q\\xff" : String) ∧ (∀ x ∈ bytes, 32 ≤ x ∧ x < 127) ∧
      escapeBytes bytes = .ok "\\xe9\\\\q\\xff" := by
  have read : Escape.decode? CharacterName.find? (Bytes.toText [92, 51, 53, 49, 92, 113, 255]) =
      some [233, 92, 113, 255] := by decide +kernel
  have written : Escape.encode [233, 92, 113, 255] = ("\\xe9\\\\q\\xff" : String) := by decide +kernel
  have done : escapeBytes [92, 51, 53, 49, 92, 113, 255] = .ok "\\xe9\\\\q\\xff" := by
    rw [← written, escapeBytes, read]
  exact ⟨done, (escaped_normal _).1 _ done⟩

end Context

end SourceAudit
