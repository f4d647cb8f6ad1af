import Mathlib.Data.List.Forall2
import SchemaText.Proofs.Pattern.Sought
/-! Two texts that go on alike for a while, and patterns that are met alike at both of them. -/

namespace SchemaText.Pattern

open Text (Stops stops_nil stops_cons isWord)

structure Fork where
  left : List Char
  right : List Char
  leftStart : Nat
  rightStart : Nat

namespace Fork

structure Twins (f : Fork) (ahead : List Char) (s t : Spot) : Prop where
  left : s.rest = ahead ++ f.left
  right : t.rest = ahead ++ f.right
  leftStart : s.offset + ahead.length = f.leftStart
  rightStart : t.offset + ahead.length = f.rightStart
  before : s.before.any isWord = t.before.any isWord
  texts : s.texts = t.texts

variable {f : Fork} {s t u v : Spot} {ahead later : List Char} {c : Char}

theorem Twins.after (h : f.Twins (c :: ahead) s t) :
    f.Twins ahead (s.after c (ahead ++ f.left)) (t.after c (ahead ++ f.right)) := by
  have hl := h.leftStart
  have hr := h.rightStart
  rw [List.length_cons] at hl hr
  refine ⟨rfl, rfl, ?_, ?_, rfl, h.texts⟩
  · show s.offset + 1 + ahead.length = f.leftStart
    omega
  · show t.offset + 1 + ahead.length = f.rightStart
    omega

theorem Twins.capture (h : f.Twins ahead s t) (k : f.Twins later u v) (name : String) :
    f.Twins later (u.capture name s) (v.capture name t) := by
  have hlen : (u.offset - s.offset) = ahead.length - later.length ∧
      (v.offset - t.offset) = ahead.length - later.length := by
    have := h.leftStart
    have := h.rightStart
    have := k.leftStart
    have := k.rightStart
    omega
  refine ⟨k.left, k.right, k.leftStart, k.rightStart, k.before, ?_⟩
  show (name, s.rest.take (u.offset - s.offset)) :: u.texts =
    (name, t.rest.take (v.offset - t.offset)) :: v.texts
  rw [h.left, h.right, hlen.1, hlen.2, List.take_append_of_le_length (Nat.sub_le _ _),
    List.take_append_of_le_length (Nat.sub_le _ _), k.texts]

theorem Twins.offset_lt_iff (h : f.Twins ahead s t) (k : f.Twins later u v) :
    (s.offset < u.offset ↔ later.length < ahead.length) ∧
      (t.offset < v.offset ↔ later.length < ahead.length) := by
  have := h.leftStart
  have := h.rightStart
  have := k.leftStart
  have := k.rightStart
  omega

end Fork

def Alike (f : Fork) (P Q : List Char → Prop) (p : Pattern) : Prop :=
  ∀ ⦃β : Type⦄ ⦃goLeft goRight : Spot → Option β⦄ ⦃ahead : List Char⦄ ⦃s t : Spot⦄,
    f.Twins ahead s t → P ahead →
    (∀ ⦃later : List Char⦄ ⦃u v : Spot⦄, f.Twins later u v → Q later → goLeft u = goRight v) →
    p.tryAt goLeft s = p.tryAt goRight t

section Rules

variable {f : Fork} {P Q R : List Char → Prop} {p q : Pattern} {accepts : Char → Bool}

theorem Alike.imp {P' Q' : List Char → Prop} (h : Alike f P Q p)
    (hP : ∀ ahead, P' ahead → P ahead) (hQ : ∀ ahead, Q ahead → Q' ahead) :
    Alike f P' Q' p :=
  fun _ _ _ _ _ _ ht hp k => h ht (hP _ hp) fun _ _ _ hu hq => k hu (hQ _ hq)

theorem alike_empty (h : ∀ ahead, P ahead → Q ahead) : Alike f P Q empty :=
  fun _ _ _ _ _ _ ht hp hgo => hgo ht (h _ hp)

theorem alike_one (h : ∀ c ahead, P (c :: ahead) → accepts c → Q ahead)
    (k : P [] → Stops accepts f.left ∧ Stops accepts f.right) : Alike f P Q (one accepts) := by
  intro β goLeft goRight ahead s t ht hp hgo
  cases ahead with
  | nil =>
    rw [failsOn_one (k hp).1 s ht.left goLeft, failsOn_one (k hp).2 t ht.right goRight]
  | cons c ahead =>
    have hl := ht.left
    have hr := ht.right
    rw [List.cons_append] at hl hr
    simp only [tryAt, hl, hr]
    by_cases ha : accepts c
    · rw [if_pos ha, if_pos ha]
      exact hgo ht.after (h c ahead hp ha)
    · rw [if_neg ha, if_neg ha]

theorem Alike.append (h : Alike f P Q p) (k : Alike f Q R q) : Alike f P R (p ++ q) :=
  fun _ _ _ _ _ _ ht hp hgo => h ht hp fun _ _ _ hu hq => k hu hq hgo

theorem Alike.orElse (h : Alike f P Q p) (k : Alike f P Q q) : Alike f P Q (p <|> q) := by
  intro β goLeft goRight ahead s t ht hp hgo
  show (p.tryAt goLeft s <|> q.tryAt goLeft s) = (p.tryAt goRight t <|> q.tryAt goRight t)
  rw [h ht hp hgo, k ht hp hgo]

theorem Alike.optional (h : Alike f P Q p) (k : ∀ ahead, P ahead → Q ahead) :
    Alike f P Q (Pattern.optional p) := by
  intro β goLeft goRight ahead s t ht hp hgo
  show (p.tryAt goLeft s <|> goLeft s) = (p.tryAt goRight t <|> goRight t)
  rw [h ht hp hgo, hgo ht (k _ hp)]

theorem Alike.group (h : Alike f P Q p) (name : String) : Alike f P Q (Pattern.group name p) :=
  fun _ _ _ _ _ _ ht hp hgo => h ht hp fun _ _ _ hu hq => hgo (ht.capture hu name) hq

theorem alike_wordEdge (h : P [] → f.left.head?.any isWord = f.right.head?.any isWord) :
    Alike f P P wordEdge := by
  intro β goLeft goRight ahead s t ht hp hgo
  have hedge : s.atWordEdge = t.atWordEdge := by
    have hhead : s.rest.head?.any isWord = t.rest.head?.any isWord := by
      rw [ht.left, ht.right]
      cases ahead with
      | nil => exact h hp
      | cons c ahead => rfl
    rw [Spot.atWordEdge, Spot.atWordEdge, ht.before, hhead]
  show (if s.atWordEdge then goLeft s else none) = if t.atWordEdge then goRight t else none
  rw [hedge, hgo ht hp]

theorem forall₂_run (hQ : ∀ c ahead, Q (c :: ahead) → accepts c → Q ahead)
    (k : Q [] → Stops accepts f.left ∧ Stops accepts f.right) {ahead : List Char} {s t : Spot}
    (ht : f.Twins ahead s t) (hq : Q ahead) :
    List.Forall₂ (fun u v => ∃ later, f.Twins later u v ∧ Q later) (s.run accepts)
      (t.run accepts) := by
  induction ahead generalizing s t with
  | nil =>
    have hstop {u : Spot} (hu : Stops accepts u.rest) : u.run accepts = [u] := by
      obtain ⟨offset, before, rest, captures⟩ := u
      cases rest with
      | nil => rfl
      | cons c rest => simp [Spot.run, Spot.runFrom, stops_cons.1 hu]
    have hl := ht.left
    have hr := ht.right
    rw [List.nil_append] at hl hr
    rw [hstop (hl ▸ (k hq).1), hstop (hr ▸ (k hq).2)]
    exact .cons ⟨[], ht, hq⟩ .nil
  | cons c ahead ih =>
    have hstep {u : Spot} {rest : List Char} (hu : u.rest = c :: rest) :
        u.run accepts = u :: if accepts c then (u.after c rest).run accepts else [] := by
      obtain ⟨offset, before, text, captures⟩ := u
      obtain rfl : text = c :: rest := hu
      rfl
    rw [hstep ht.left, hstep ht.right]
    refine .cons ⟨_, ht, hq⟩ ?_
    split
    · next ha => exact ih ht.after (hQ c ahead hq ha)
    · exact .nil

theorem findSome?_of_forall₂ {β : Type} {R : Spot → Spot → Prop} {goLeft goRight : Spot → Option β}
    {us vs : List Spot} (h : List.Forall₂ R us vs) (k : ∀ u v, R u v → goLeft u = goRight v) :
    us.findSome? goLeft = vs.findSome? goRight := by
  induction h with
  | nil => rfl
  | cons hr _ ih => rw [List.findSome?_cons, List.findSome?_cons, k _ _ hr, ih]

theorem alike_fewest (hP : ∀ ahead, P ahead → Q ahead)
    (hQ : ∀ c ahead, Q (c :: ahead) → accepts c → Q ahead)
    (k : Q [] → Stops accepts f.left ∧ Stops accepts f.right) : Alike f P Q (fewest accepts) := by
  intro β goLeft goRight ahead s t ht hp hgo
  refine findSome?_of_forall₂ (forall₂_run hQ k ht (hP _ hp)) ?_
  rintro u v ⟨later, hu, hq⟩
  exact hgo hu hq

theorem alike_most (hP : ∀ ahead, P ahead → Q ahead)
    (hQ : ∀ c ahead, Q (c :: ahead) → accepts c → Q ahead)
    (k : Q [] → Stops accepts f.left ∧ Stops accepts f.right) : Alike f P Q (most accepts) := by
  intro β goLeft goRight ahead s t ht hp hgo
  refine findSome?_of_forall₂ (List.rel_reverse (forall₂_run hQ k ht (hP _ hp))) ?_
  rintro u v ⟨later, hu, hq⟩
  exact hgo hu hq

theorem alike_oneOrMore (hP : ∀ c ahead, P (c :: ahead) → accepts c → Q ahead)
    (hQ : ∀ c ahead, Q (c :: ahead) → accepts c → Q ahead)
    (k : P [] ∨ Q [] → Stops accepts f.left ∧ Stops accepts f.right) :
    Alike f P Q (oneOrMore accepts) :=
  (alike_one hP fun h => k (.inl h)).append (alike_most (fun _ => id) hQ fun h => k (.inr h))

theorem tryAt_none {β : Type} (p : Pattern) (s : Spot) :
    p.tryAt (fun _ => (none : Option β)) s = none := by
  cases h : p.tryAt (fun _ => (none : Option β)) s with
  | none => rfl
  | some b =>
    obtain ⟨_, _, hb⟩ := exists_meets_of_tryAt p h
    cases hb

theorem Alike.tryAt_step_eq_none {β : Type} {go : Spot → Option β} {s t : Spot}
    (h : Alike f P P p) (ht : f.Twins [] s t) (hp : P []) :
    p.tryAt (fun u => if s.offset < u.offset then go u else none) s = none ∧
      p.tryAt (fun u => if t.offset < u.offset then go u else none) t = none := by
  constructor
  · refine Eq.trans (h ht hp fun later u v hu _ => ?_) (tryAt_none p t)
    exact if_neg fun hlt => Nat.not_lt_zero _ ((ht.offset_lt_iff hu).1.1 hlt)
  · refine Eq.trans (h ht hp fun later u v hu _ => ?_).symm (tryAt_none p s)
    exact (if_neg fun hlt => Nat.not_lt_zero _ ((ht.offset_lt_iff hu).2.1 hlt)).symm

theorem Alike.rounds {β : Type} {goLeft goRight : Spot → Option β} (h : Alike f P P p)
    (hgo : ∀ ⦃later : List Char⦄ ⦃u v : Spot⦄, f.Twins later u v → P later →
      goLeft u = goRight v) {first second : Nat} {ahead : List Char} {s t : Spot}
    (ht : f.Twins ahead s t) (hp : P ahead) (hf : ahead.length ≤ first)
    (hs : ahead.length ≤ second) :
    Pattern.rounds p.tryAt goLeft first s = Pattern.rounds p.tryAt goRight second t := by
  induction first generalizing second ahead s t with
  | zero =>
    obtain rfl := List.eq_nil_of_length_eq_zero (Nat.le_zero.1 hf)
    cases second with
    | zero => exact hgo ht hp
    | succ second =>
      rw [Pattern.rounds, Pattern.rounds, (h.tryAt_step_eq_none ht hp).2, hgo ht hp]
      rfl
  | succ first ih =>
    cases second with
    | zero =>
      obtain rfl := List.eq_nil_of_length_eq_zero (Nat.le_zero.1 hs)
      rw [Pattern.rounds, Pattern.rounds, (h.tryAt_step_eq_none ht hp).1, hgo ht hp]
      rfl
    | succ second =>
      rw [Pattern.rounds, Pattern.rounds, hgo ht hp]
      congr 1
      refine h ht hp fun later u v hu hq => ?_
      have hiff := ht.offset_lt_iff hu
      by_cases hlt : later.length < ahead.length
      · rw [if_pos (hiff.1.2 hlt), if_pos (hiff.2.2 hlt)]
        exact ih hu hq (by omega) (by omega)
      · rw [if_neg (mt hiff.1.1 hlt), if_neg (mt hiff.2.1 hlt)]

theorem Alike.repeated (h : Alike f P P p) : Alike f P P (Pattern.repeated p) := by
  intro β goLeft goRight ahead s t ht hp hgo
  refine h.rounds hgo ht hp ?_ ?_
  · rw [ht.left, List.length_append]
    omega
  · rw [ht.right, List.length_append]
    omega

theorem alike_letters {letters : List Char}
    (h : ∀ c ∈ letters, Alike f P P (one (Text.sameLetter c))) :
    Alike f P P (letters.foldr (fun c p => one (Text.sameLetter c) ++ p) empty) := by
  induction letters with
  | nil => exact alike_empty fun _ => id
  | cons c letters ih =>
    exact (h c List.mem_cons_self).append (ih fun d hd => h d (List.mem_cons_of_mem _ hd))

end Rules

section Shunned

def shuns (c : Option Char) : Pattern → Bool
  | one accepts | most accepts | fewest accepts => !c.any accepts
  | sequence p q | choice p q => p.shuns c && q.shuns c
  | optional p | repeated p | group _ p => p.shuns c
  | textStart | textEnd => false
  | empty | wordEdge => true

variable {f : Fork} {p : Pattern}

theorem stops_of_shuns {accepts : Char → Bool} {rest : List Char}
    (h : (!rest.head?.any accepts) = true) : Stops accepts rest := by
  cases rest with
  | nil => exact stops_nil _
  | cons c rest => exact stops_cons.2 (by simpa using h)

theorem alike_of_shuns (hl : p.shuns f.left.head?) (hr : p.shuns f.right.head?)
    (he : f.left.head?.any isWord = f.right.head?.any isWord) :
    Alike f (fun _ => True) (fun _ => True) p := by
  induction p with
  | empty => exact alike_empty fun _ => id
  | one accepts =>
    exact alike_one (fun _ _ _ _ => trivial) fun _ => ⟨stops_of_shuns hl, stops_of_shuns hr⟩
  | most accepts =>
    exact alike_most (fun _ => id) (fun _ _ _ _ => trivial)
      fun _ => ⟨stops_of_shuns hl, stops_of_shuns hr⟩
  | fewest accepts =>
    exact alike_fewest (fun _ => id) (fun _ _ _ _ => trivial)
      fun _ => ⟨stops_of_shuns hl, stops_of_shuns hr⟩
  | sequence p q ihp ihq =>
    rw [shuns, Bool.and_eq_true] at hl hr
    exact Alike.append (ihp hl.1 hr.1) (ihq hl.2 hr.2)
  | choice p q ihp ihq =>
    rw [shuns, Bool.and_eq_true] at hl hr
    exact Alike.orElse (ihp hl.1 hr.1) (ihq hl.2 hr.2)
  | optional p ih => exact (ih hl hr).optional fun _ => id
  | repeated p ih => exact (ih hl hr).repeated
  | group name p ih => exact (ih hl hr).group name
  | wordEdge => exact alike_wordEdge fun _ => he
  | textStart | textEnd => cases hl

end Shunned

end SchemaText.Pattern
