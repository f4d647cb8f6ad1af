import Mathlib.Algebra.Group.Nat.Defs
import Mathlib.Data.List.Basic
import SchemaText.Proofs.Export.Chain
import SchemaText.Text.Utf8
/-! Bytes are read as the text that they spell, and they are refused only if they spell none. -/

namespace SchemaText.Text.Utf8

open Export (map_eq_ok_iff)

def encode (text : List Char) : List UInt8 :=
  text.flatMap String.utf8EncodeChar

def trail : Nat → Nat → List UInt8
  | 0, _ => []
  | missing + 1, n => UInt8.ofNat (n / 64 ^ missing % 64 + 0x80) :: trail missing n

structure Pending.Allows (p : Pending) (n : Nat) : Prop where
  value : n / 64 ^ p.missing = p.value
  low : p.low.toNat ≤ n / 64 ^ (p.missing - 1) % 64 + 0x80
  high : n / 64 ^ (p.missing - 1) % 64 + 0x80 ≤ p.high.toNat

structure Pending.Sound (p : Pending) : Prop where
  missing : 0 < p.missing
  low : 0x80 ≤ p.low.toNat
  high : p.high.toNat ≤ 0xBF
  valid : ∀ n, p.Allows n → n.isValidChar

section Pending

variable {p : Pending} {b : UInt8} {n : Nat}

theorem ofNat_eq_iff (h : n < 256) : UInt8.ofNat n = b ↔ n = b.toNat := by
  rw [← UInt8.toNat_inj, UInt8.toNat_ofNat', Nat.mod_eq_of_lt h]

theorem toNat_ofNat (h : n.isValidChar) : (Char.ofNat n).toNat = n := by
  rw [Char.ofNat, dif_pos h]
  rfl

@[simp] theorem length_trail (missing n : Nat) : (trail missing n).length = missing := by
  induction missing with
  | zero => rfl
  | succ missing ih => simp [trail, ih]

theorem div_pow_eq_iff (n missing value : Nat) {digit : Nat} (h : digit < 64) :
    n / 64 ^ missing = 64 * value + digit ↔
      n / 64 ^ (missing + 1) = value ∧ n / 64 ^ missing % 64 = digit := by
  rw [Nat.pow_succ, ← Nat.div_div_eq_div_mul]
  omega

theorem Pending.allows_iff :
    p.Allows n ↔ n / 64 ^ p.missing = p.value ∧
      p.low.toNat ≤ n / 64 ^ (p.missing - 1) % 64 + 0x80 ∧
      n / 64 ^ (p.missing - 1) % 64 + 0x80 ≤ p.high.toNat :=
  ⟨fun h => ⟨h.value, h.low, h.high⟩, fun h => ⟨h.1, h.2.1, h.2.2⟩⟩

theorem Pending.Sound.trail_eq (h : p.Sound) (n : Nat) :
    trail p.missing n =
      UInt8.ofNat (n / 64 ^ (p.missing - 1) % 64 + 0x80) :: trail (p.missing - 1) n := by
  obtain ⟨missing, hm⟩ : ∃ missing, p.missing = missing + 1 :=
    ⟨p.missing - 1, (Nat.sub_add_cancel h.missing).symm⟩
  rw [hm]
  rfl

theorem Pending.Allows.byte_lt (h : p.Allows n) : n / 64 ^ (p.missing - 1) % 64 + 0x80 < 256 :=
  Nat.lt_of_le_of_lt h.high p.high.toNat_lt

theorem Pending.Sound.value_add_iff (h : p.Sound) (hb : p.low ≤ b ∧ b ≤ p.high) (n : Nat) :
    n / 64 ^ (p.add b).missing = (p.add b).value ↔
      p.Allows n ∧ UInt8.ofNat (n / 64 ^ (p.missing - 1) % 64 + 0x80) = b := by
  obtain ⟨hlow, hhigh⟩ := hb
  rw [UInt8.le_iff_toNat_le] at hlow hhigh
  have hbounds := h.low
  have hbounds' := h.high
  have hmissing : p.missing - 1 + 1 = p.missing := Nat.sub_add_cancel h.missing
  have hdigit : b.toNat - 0x80 < 64 := by omega
  have hstep := div_pow_eq_iff n (p.missing - 1) p.value hdigit
  rw [hmissing] at hstep
  show n / 64 ^ (p.missing - 1) = 64 * p.value + (b.toNat - 0x80) ↔ _
  rw [hstep, ofNat_eq_iff (by omega)]
  constructor
  · rintro ⟨hvalue, hdigit⟩
    exact ⟨⟨hvalue, by omega, by omega⟩, by omega⟩
  · rintro ⟨hallows, hdigit⟩
    exact ⟨hallows.value, by omega⟩

theorem Pending.Sound.cons_eq_trail_iff (h : p.Sound) (hb : p.low ≤ b ∧ b ≤ p.high)
    {bytes more : List UInt8} :
    p.Allows n ∧ b :: bytes = trail p.missing n ++ more ↔
      n / 64 ^ (p.add b).missing = (p.add b).value ∧
        bytes = trail (p.add b).missing n ++ more := by
  rw [h.value_add_iff hb, h.trail_eq, List.cons_append, List.cons.injEq, @eq_comm _ b, and_assoc]
  rfl

theorem Pending.allows_add_iff :
    (p.add b).Allows n ↔ n / 64 ^ (p.add b).missing = (p.add b).value := by
  refine ⟨fun k => k.value, fun k => ⟨k, ?_, ?_⟩⟩
  · exact Nat.le_add_left _ _
  · show _ % 64 + 0x80 ≤ 0xBF
    omega

theorem Pending.Sound.allows_of_value (h : p.Sound) (hb : p.low ≤ b ∧ b ≤ p.high)
    (hn : n / 64 ^ (p.add b).missing = (p.add b).value) : p.Allows n :=
  ((h.value_add_iff hb n).1 hn).1

theorem Pending.Sound.add (h : p.Sound) (hb : p.low ≤ b ∧ b ≤ p.high) (hm : p.missing ≠ 1) :
    (p.add b).Sound where
  missing := by
    have := h.missing
    show 0 < p.missing - 1
    omega
  low := Nat.le_refl _
  high := Nat.le_refl _
  valid n hn := h.valid n (h.allows_of_value hb hn.value)

theorem Pending.Sound.toNat_eq_iff (h : p.Sound) (hb : p.low ≤ b ∧ b ≤ p.high)
    (hm : p.missing = 1) (c : Char) :
    c.toNat / 64 ^ (p.add b).missing = (p.add b).value ↔ Char.ofNat (p.add b).value = c := by
  have hone (n : Nat) : n / 64 ^ (p.add b).missing = n := by
    show n / 64 ^ (p.missing - 1) = n
    rw [hm, Nat.sub_self, Nat.pow_zero, Nat.div_one]
  have hvalid : (p.add b).value.isValidChar := h.valid _ (h.allows_of_value hb (hone _))
  rw [hone]
  constructor
  · intro he
    rw [← he, Char.ofNat_toNat]
  · intro he
    rw [← he, toNat_ofNat hvalid]

theorem cases_of_pending? {offset : Nat} (h : pending? offset b = some p) :
    (p.missing = 1 ∧ 0xC2 ≤ b.toNat ∧ b.toNat ≤ 0xDF ∧
      ∀ n, p.Allows n ↔ n / 64 = b.toNat - 0xC0) ∨
    (p.missing = 2 ∧ 0xE0 ≤ b.toNat ∧ b.toNat ≤ 0xEF ∧
      ∀ n, p.Allows n ↔ n / 4096 = b.toNat - 0xE0 ∧ 0x7ff < n ∧ n.isValidChar) ∨
    (p.missing = 3 ∧ 0xF0 ≤ b.toNat ∧ b.toNat ≤ 0xF4 ∧
      ∀ n, p.Allows n ↔ n / 262144 = b.toNat - 0xF0 ∧ 0xffff < n ∧ n.isValidChar) := by
  unfold pending? at h
  dsimp only at h
  split at h
  · next hb =>
    obtain rfl := Option.some.inj h
    refine .inl ⟨rfl, hb.1, hb.2, fun n => ⟨fun hn => hn.value, fun hn => ⟨hn, ?_, ?_⟩⟩⟩
    · exact Nat.le_add_left _ _
    · show _ % 64 + 0x80 ≤ 0xBF
      omega
  split at h
  · next hb =>
    obtain rfl := Option.some.inj h
    refine .inr (.inl ⟨rfl, hb.1, hb.2, fun n => ?_⟩)
    rw [Pending.allows_iff, apply_ite UInt8.toNat, apply_ite UInt8.toNat]
    unfold Nat.isValidChar
    show n / 4096 = b.toNat - 0xE0 ∧ ite _ 0xA0 0x80 ≤ n / 64 % 64 + 0x80 ∧
      n / 64 % 64 + 0x80 ≤ ite _ 0x9F 0xBF ↔ _
    split <;> split <;> omega
  split at h
  · next hb =>
    obtain rfl := Option.some.inj h
    refine .inr (.inr ⟨rfl, hb.1, hb.2, fun n => ?_⟩)
    rw [Pending.allows_iff, apply_ite UInt8.toNat, apply_ite UInt8.toNat]
    unfold Nat.isValidChar
    show n / 262144 = b.toNat - 0xF0 ∧ ite _ 0x90 0x80 ≤ n / 4096 % 64 + 0x80 ∧
      n / 4096 % 64 + 0x80 ≤ ite _ 0x8F 0xBF ↔ _
    split <;> split <;> omega
  · cases h

theorem bounds_of_pending? {offset : Nat} (h : pending? offset b = some p) :
    0x80 ≤ p.low.toNat ∧ p.high.toNat ≤ 0xBF := by
  unfold pending? at h
  dsimp only at h
  split at h
  · obtain rfl := Option.some.inj h
    exact ⟨Nat.le_refl _, Nat.le_refl _⟩
  split at h
  · obtain rfl := Option.some.inj h
    rw [apply_ite UInt8.toNat, apply_ite UInt8.toNat]
    constructor <;> split <;> decide
  split at h
  · obtain rfl := Option.some.inj h
    rw [apply_ite UInt8.toNat, apply_ite UInt8.toNat]
    constructor <;> split <;> decide
  · cases h

theorem exists_pending? (offset : Nat) (hlow : 0xC2 ≤ n) (hhigh : n ≤ 0xF4) :
    ∃ b p, b.toNat = n ∧ pending? offset b = some p := by
  have hb : (UInt8.ofNat n).toNat = n := by
    rw [UInt8.toNat_ofNat', Nat.mod_eq_of_lt (by omega)]
  suffices h : (pending? offset (UInt8.ofNat n)).isSome by
    obtain ⟨p, hp⟩ := Option.isSome_iff_exists.1 h
    exact ⟨_, p, hb, hp⟩
  unfold pending?
  dsimp only
  rw [hb]
  split
  · rfl
  split
  · rfl
  rw [if_pos (by omega)]
  rfl

theorem sound_of_pending? {offset : Nat} (h : pending? offset b = some p) : p.Sound := by
  obtain ⟨hlow, hhigh⟩ := bounds_of_pending? h
  rcases cases_of_pending? h with ⟨hm, _, hb, hn⟩ | ⟨hm, _, _, hn⟩ | ⟨hm, _, _, hn⟩
  · refine ⟨by omega, hlow, hhigh, fun n k => ?_⟩
    have hvalue := (hn n).1 k
    unfold Nat.isValidChar
    omega
  · exact ⟨by omega, hlow, hhigh, fun n k => ((hn n).1 k).2.2⟩
  · exact ⟨by omega, hlow, hhigh, fun n k => ((hn n).1 k).2.2⟩

end Pending

section Decoding

variable {p : Pending} {b : UInt8} {offset : Nat} {bytes : List UInt8} {text : List Char}
  {c : Char}

theorem decodeFrom_pending_iff (h : p.Sound) :
    decodeFrom offset (some p) bytes = .ok text ↔
      ∃ c rest more, text = c :: rest ∧
        (p.Allows c.toNat ∧ bytes = trail p.missing c.toNat ++ more) ∧
          decodeFrom (offset + p.missing) none more = .ok rest := by
  induction bytes generalizing p offset with
  | nil =>
    refine ⟨nofun, ?_⟩
    rintro ⟨c, rest, more, _, ⟨_, hbytes⟩, _⟩
    rw [h.trail_eq] at hbytes
    cases hbytes
  | cons b bytes ih =>
    rw [decodeFrom]
    split
    · next hb =>
      simp only [h.cons_eq_trail_iff hb]
      split
      · next hm =>
        have hnone : (p.add b).missing = 0 := by
          show p.missing - 1 = 0
          rw [hm]
        simp only [map_eq_ok_iff, h.toNat_eq_iff hb hm]
        rw [hnone, hm]
        constructor
        · rintro ⟨rest, hrest, rfl⟩
          exact ⟨_, rest, bytes, rfl, ⟨rfl, rfl⟩, hrest⟩
        · rintro ⟨_, rest, more, rfl, ⟨rfl, rfl⟩, hrest⟩
          exact ⟨rest, hrest, rfl⟩
      · next hm =>
        have hoffset : offset + 1 + (p.add b).missing = offset + p.missing := by
          have := h.missing
          show offset + 1 + (p.missing - 1) = _
          omega
        rw [ih (h.add hb hm), hoffset]
        simp only [Pending.allows_add_iff]
    · next hb =>
      refine ⟨nofun, ?_⟩
      rintro ⟨c, rest, more, _, ⟨hallows, hbytes⟩, _⟩
      rw [h.trail_eq] at hbytes
      have hbyte := ((ofNat_eq_iff (hallows.byte_lt)).1 (List.cons.inj hbytes).1.symm).symm
      rw [UInt8.le_iff_toNat_le, UInt8.le_iff_toNat_le, hbyte] at hb
      exact absurd ⟨hallows.low, hallows.high⟩ hb

theorem utf8EncodeChar_of_lt (h : c.toNat < 0x80) :
    String.utf8EncodeChar c = [UInt8.ofNat c.toNat] := by
  have hv : c.val.toNat ≤ 0x7f := Nat.le_of_lt_succ h
  unfold String.utf8EncodeChar
  rw [if_pos hv]
  rfl

theorem utf8EncodeChar_ofNat (h : b < 0x80) :
    String.utf8EncodeChar (Char.ofNat b.toNat) = [b] := by
  have hb : b.toNat < 0x80 := UInt8.lt_iff_toNat_lt.1 h
  have hchar : (Char.ofNat b.toNat).toNat = b.toNat :=
    toNat_ofNat (.inl (Nat.lt_trans hb (by decide)))
  rw [utf8EncodeChar_of_lt (by rwa [hchar]), hchar, UInt8.ofNat_toNat]

theorem utf8EncodeChar_of_pending? (hp : pending? offset b = some p) (h : p.Allows c.toNat) :
    String.utf8EncodeChar c = b :: trail p.missing c.toNat := by
  have hcode : c.val.toNat = c.toNat := rfl
  unfold String.utf8EncodeChar
  dsimp only
  rw [hcode]
  rcases cases_of_pending? hp with ⟨hm, hb, hb', hn⟩ | ⟨hm, hb, hb', hn⟩ | ⟨hm, hb, hb', hn⟩
  · have hvalue := (hn _).1 h
    have hlead : UInt8.ofNat (c.toNat / 64 % 0x20 + 0xc0) = b :=
      (ofNat_eq_iff (by omega)).2 (by omega)
    rw [if_neg (by omega), if_pos (by omega), hlead, hm]
    simp [trail]
  · obtain ⟨hvalue, hlow, _⟩ := (hn _).1 h
    have hlead : UInt8.ofNat (c.toNat / 4096 % 0x10 + 0xe0) = b :=
      (ofNat_eq_iff (by omega)).2 (by omega)
    rw [if_neg (by omega), if_neg (by omega), if_pos (by omega), hlead, hm]
    simp [trail]
  · obtain ⟨hvalue, hlow, hvalid⟩ := (hn _).1 h
    have hlead : UInt8.ofNat (c.toNat / 262144 % 0x08 + 0xf0) = b :=
      (ofNat_eq_iff (by omega)).2 (by omega)
    rw [if_neg (by omega), if_neg (by omega), if_neg (by omega), hlead, hm]
    simp [trail]

theorem exists_pending?_allows (offset : Nat) (h : 0x80 ≤ c.toNat) :
    ∃ b p, 0x80 ≤ b.toNat ∧ pending? offset b = some p ∧ p.Allows c.toNat := by
  have hvalid : c.toNat.isValidChar := c.valid
  have hcode := hvalid
  unfold Nat.isValidChar at hcode
  obtain ⟨b, p, hb, hp⟩ : ∃ b p, (c.toNat ≤ 0x7ff ∧ b.toNat = c.toNat / 64 + 0xC0 ∨
      0x7ff < c.toNat ∧ c.toNat ≤ 0xffff ∧ b.toNat = c.toNat / 4096 + 0xE0 ∨
      0xffff < c.toNat ∧ b.toNat = c.toNat / 262144 + 0xF0) ∧ pending? offset b = some p := by
    rcases (by omega : c.toNat ≤ 0x7ff ∨ (0x7ff < c.toNat ∧ c.toNat ≤ 0xffff) ∨ 0xffff < c.toNat)
      with hc | ⟨hc, hc'⟩ | hc
    · obtain ⟨b, p, hb, hp⟩ := @exists_pending? (c.toNat / 64 + 0xC0) offset (by omega) (by omega)
      exact ⟨b, p, .inl ⟨hc, hb⟩, hp⟩
    · obtain ⟨b, p, hb, hp⟩ := @exists_pending? (c.toNat / 4096 + 0xE0) offset (by omega) (by omega)
      exact ⟨b, p, .inr (.inl ⟨hc, hc', hb⟩), hp⟩
    · obtain ⟨b, p, hb, hp⟩ :=
        @exists_pending? (c.toNat / 262144 + 0xF0) offset (by omega) (by omega)
      exact ⟨b, p, .inr (.inr ⟨hc, hb⟩), hp⟩
  refine ⟨b, p, by omega, hp, ?_⟩
  rcases cases_of_pending? hp with ⟨_, _, _, hn⟩ | ⟨_, _, _, hn⟩ | ⟨_, _, _, hn⟩
  · exact (hn _).2 (by omega)
  · exact (hn _).2 ⟨by omega, by omega, hvalid⟩
  · exact (hn _).2 ⟨by omega, by omega, hvalid⟩

theorem decodeFrom_eq_cons_iff :
    decodeFrom offset none bytes = .ok (c :: text) ↔
      ∃ more, bytes = String.utf8EncodeChar c ++ more ∧
        decodeFrom (offset + (String.utf8EncodeChar c).length) none more = .ok text := by
  constructor
  · intro h
    cases bytes with
    | nil => cases h
    | cons b bytes =>
      rw [decodeFrom] at h
      split at h
      · next hb =>
        obtain ⟨rest, hrest, he⟩ := map_eq_ok_iff.1 h
        obtain ⟨rfl, rfl⟩ := List.cons.inj he
        have hchar := utf8EncodeChar_ofNat hb
        exact ⟨bytes, by rw [hchar]; rfl, by rwa [hchar]⟩
      · next hb =>
        split at h
        · next p hp =>
          obtain ⟨d, rest, more, he, ⟨hd, rfl⟩, hrest⟩ :=
            (decodeFrom_pending_iff (sound_of_pending? hp)).1 h
          obtain ⟨rfl, rfl⟩ := List.cons.inj he
          refine ⟨more, by rw [utf8EncodeChar_of_pending? hp hd, List.cons_append], ?_⟩
          rw [utf8EncodeChar_of_pending? hp hd, List.length_cons, length_trail]
          rwa [Nat.add_right_comm, Nat.add_assoc] at hrest
        · cases h
  · rintro ⟨more, rfl, h⟩
    by_cases hc : c.toNat < 0x80
    · have hb : UInt8.ofNat c.toNat < 0x80 := by
        rw [UInt8.lt_iff_toNat_lt, UInt8.toNat_ofNat', Nat.mod_eq_of_lt (by omega)]
        exact hc
      have hchar : Char.ofNat (UInt8.ofNat c.toNat).toNat = c := by
        rw [UInt8.toNat_ofNat', Nat.mod_eq_of_lt (by omega), Char.ofNat_toNat]
      rw [utf8EncodeChar_of_lt hc] at h ⊢
      rw [List.singleton_append, decodeFrom, if_pos hb, hchar]
      exact map_eq_ok_iff.2 ⟨text, h, rfl⟩
    · obtain ⟨b, p, hb, hp, ha⟩ := exists_pending?_allows offset (Nat.le_of_not_lt hc)
      rw [utf8EncodeChar_of_pending? hp ha] at h ⊢
      have hlead : ¬ b < 0x80 := by
        rw [UInt8.lt_iff_toNat_lt]
        exact Nat.not_lt.2 hb
      rw [List.cons_append, decodeFrom, if_neg hlead, hp]
      refine (decodeFrom_pending_iff (sound_of_pending? hp)).2 ⟨c, text, more, rfl, ⟨ha, rfl⟩, ?_⟩
      rw [List.length_cons, length_trail] at h
      rwa [Nat.add_right_comm, Nat.add_assoc]

theorem decodeFrom_eq_nil_iff : decodeFrom offset none bytes = .ok [] ↔ bytes = [] := by
  constructor
  · intro h
    cases bytes with
    | nil => rfl
    | cons b bytes =>
      rw [decodeFrom] at h
      split at h
      · obtain ⟨_, _, he⟩ := map_eq_ok_iff.1 h
        cases he
      · split at h
        · next p hp =>
          obtain ⟨_, _, _, he, _⟩ := (decodeFrom_pending_iff (sound_of_pending? hp)).1 h
          cases he
        · cases h
  · rintro rfl
    rfl

theorem decodeFrom_eq_ok_iff : decodeFrom offset none bytes = .ok text ↔ encode text = bytes := by
  induction text generalizing offset bytes with
  | nil => rw [decodeFrom_eq_nil_iff, eq_comm]; rfl
  | cons c text ih =>
    rw [decodeFrom_eq_cons_iff]
    simp only [ih]
    constructor
    · rintro ⟨_, rfl, rfl⟩
      rfl
    · rintro rfl
      exact ⟨encode text, rfl, rfl⟩

theorem decode_eq_ok_iff : decode bytes = .ok text ↔ encode text = bytes :=
  decodeFrom_eq_ok_iff

end Decoding

end SchemaText.Text.Utf8
