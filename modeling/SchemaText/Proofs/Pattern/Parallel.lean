import Mathlib.Data.Option.Basic
import SchemaText.Proofs.Pattern.Alike
/-! What is found first in a text, and searches that run in parallel through two texts. -/

namespace SchemaText.Pattern

open Text (Stops isWord)

section Found

variable {β γ : Type} {p : Pattern} {s : Spot}

theorem map_orElse (g : β → γ) (x y : Option β) : (x <|> y).map g = (x.map g <|> y.map g) := by
  cases x <;> rfl

theorem map_tryAt (g : β → γ) (p : Pattern) (goOn : Spot → Option β) (s : Spot) :
    (p.tryAt goOn s).map g = p.tryAt (fun t => (goOn t).map g) s := by
  induction p generalizing goOn s with
  | empty => rfl
  | one accepts =>
    simp only [tryAt]
    split
    · rfl
    · split <;> rfl
  | most accepts | fewest accepts => exact List.map_findSome?
  | sequence p q ihp ihq =>
    simp only [tryAt]
    rw [ihp, show (fun t => (q.tryAt goOn t).map g) = q.tryAt fun t => (goOn t).map g from
      funext fun t => ihq goOn t]
  | choice p q ihp ihq =>
    simp only [tryAt]
    rw [map_orElse, ihp, ihq]
  | optional p ih =>
    simp only [tryAt]
    rw [map_orElse, ih]
  | repeated p ih =>
    simp only [tryAt]
    generalize s.rest.length = bound
    induction bound generalizing s with
    | zero => rfl
    | succ bound ihb =>
      rw [rounds, rounds, map_orElse, ih]
      congr 2
      funext t
      split
      · exact ihb t
      · rfl
  | group name p ih => exact ih _ s
  | wordEdge | textStart | textEnd =>
    simp only [tryAt]
    split <;> rfl

theorem tryAt_eq_none_of_imp {goOn : Spot → Option β} {goOn' : Spot → Option γ}
    (h : ∀ t, goOn' t = none → goOn t = none) (k : p.tryAt goOn' s = none) :
    p.tryAt goOn s = none := by
  induction p generalizing goOn goOn' s with
  | empty => exact h s k
  | one accepts =>
    simp only [tryAt] at k ⊢
    split
    · rfl
    · next c rest hr =>
      simp only [hr] at k
      split
      · next ha => exact h _ (by rwa [if_pos ha] at k)
      · rfl
  | most accepts | fewest accepts =>
    refine List.findSome?_eq_none_iff.2 fun t ht => h t ?_
    exact List.findSome?_eq_none_iff.1 k t ht
  | sequence p q ihp ihq =>
    have k : p.tryAt (q.tryAt goOn') s = none := k
    exact ihp (fun t ht => ihq h ht) k
  | choice p q ihp ihq =>
    obtain ⟨hp, hq⟩ := (Option.orElse_eq_none _ _).1 k
    exact (Option.orElse_eq_none _ _).2 ⟨ihp h hp, ihq h hq⟩
  | optional p ih =>
    obtain ⟨hp, hs⟩ := (Option.orElse_eq_none _ _).1 k
    exact (Option.orElse_eq_none _ _).2 ⟨ih h hp, h s hs⟩
  | repeated p ih =>
    simp only [tryAt] at k ⊢
    generalize s.rest.length = bound at k ⊢
    induction bound generalizing s with
    | zero => exact h s k
    | succ bound ihb =>
      obtain ⟨hp, hs⟩ := (Option.orElse_eq_none _ _).1 k
      refine (Option.orElse_eq_none _ _).2 ⟨ih (fun t ht => ?_) hp, h s hs⟩
      split
      · next hlt => exact ihb (by rwa [if_pos hlt] at ht)
      · rfl
  | group name p ih => exact ih (fun t ht => h _ ht) k
  | wordEdge | textStart | textEnd =>
    simp only [tryAt] at k ⊢
    split
    · next he => exact h s (by rwa [if_pos he] at k)
    · rfl

theorem fails_of_matchAt (h : p.matchAt s = none) : p.Fails s :=
  fun _ _ => tryAt_eq_none_of_imp (fun _ k => by cases k) h

def textsFrom (p : Pattern) (s : Spot) : Option (List (String × List Char)) :=
  s.onward.findSome? (p.tryAt fun t => some t.texts)

theorem map_search (p : Pattern) (text : List Char) :
    ((p.search text).map fun m => m.captures.map fun c => (c.name, c.text)) =
      p.textsFrom ⟨0, none, text, []⟩ := by
  unfold search
  rw [List.map_findSome?]
  congr 1
  funext s
  exact map_tryAt _ p _ s

variable {c : Char} {xs rest : List Char}

theorem textsFrom_cons (h : s.rest = c :: rest) :
    p.textsFrom s = (p.tryAt (fun t => some t.texts) s <|> p.textsFrom (s.past [c] rest)) := by
  rw [textsFrom, Spot.onward_cons h, List.findSome?_cons]
  cases p.tryAt (fun t => some t.texts) s <;> rfl

theorem textsFrom_past (hs : s.rest = xs ++ rest)
    (h : ∀ ys zs, xs = ys ++ zs → zs ≠ [] → p.Fails (s.past ys (zs ++ rest))) :
    p.textsFrom s = p.textsFrom (s.past xs rest) := by
  induction xs generalizing s with
  | nil => rw [Spot.past_nil (by simpa using hs)]
  | cons c xs ih =>
    have hfirst := h [] (c :: xs) rfl (by simp) fun t => some t.texts
    rw [Spot.past_nil hs] at hfirst
    have hnext : ∀ ys zs, xs = ys ++ zs → zs ≠ [] →
        p.Fails ((s.past [c] (xs ++ rest)).past ys (zs ++ rest)) := by
      intro ys zs he hz
      rw [Spot.past_past]
      exact h (c :: ys) zs (by rw [he, List.cons_append]) hz
    rw [List.cons_append] at hs
    rw [textsFrom_cons hs, hfirst, ih rfl hnext, Spot.past_past]
    rfl

end Found

section Twins

variable {f : Fork} {p : Pattern} {P Q : List Char → Prop} {s t : Spot} {ahead xs : List Char}

theorem Fork.Twins.past (h : f.Twins (xs ++ ahead) s t) :
    f.Twins ahead (s.past xs (ahead ++ f.left)) (t.past xs (ahead ++ f.right)) := by
  have hl := h.leftStart
  have hr := h.rightStart
  rw [List.length_append] at hl hr
  refine ⟨rfl, rfl, ?_, ?_, ?_, h.texts⟩
  · show s.offset + xs.length + ahead.length = f.leftStart
    omega
  · show t.offset + xs.length + ahead.length = f.rightStart
    omega
  · show (xs.getLast?.or s.before).any isWord = (xs.getLast?.or t.before).any isWord
    cases xs.getLast? with
    | none => exact h.before
    | some c => rfl

/-- A search from the start of a text goes on as one elsewhere that has taken nothing yet. -/
theorem Fork.twins_start (f : Fork) {text : List Char} (ht : text = ahead ++ f.left)
    (hs : s.rest = ahead ++ f.right) (hl : f.leftStart = ahead.length)
    (hr : f.rightStart = s.offset + ahead.length) (hb : s.before.any isWord = false)
    (hc : s.captures = []) : f.Twins ahead ⟨0, none, text, []⟩ s where
  left := ht
  right := hs
  leftStart := by rw [hl, Nat.zero_add]
  rightStart := hr.symm
  before := hb.symm
  texts := by
    show [] = s.captures.map _
    rw [hc]
    rfl

theorem Alike.texts_eq (h : Alike f P Q p) (ht : f.Twins ahead s t) (hp : P ahead) :
    p.tryAt (fun u => some u.texts) s = p.tryAt (fun u => some u.texts) t :=
  h ht hp fun _ _ _ hu _ => congrArg some hu.texts

theorem Alike.fails (h : Alike f P Q p) (ht : f.Twins ahead s t) (hp : P ahead)
    (k : p.Fails s) : p.Fails t := by
  intro β goOn
  have hnone : p.tryAt (fun _ => some ()) t = none := by
    rw [← k fun _ => some ()]
    exact (h ht hp fun _ _ _ _ _ => rfl).symm
  exact tryAt_eq_none_of_imp (fun _ hn => by cases hn) hnone

theorem Alike.textsFrom_eq (h : Alike f (fun _ => True) Q p) (ht : f.Twins ahead s t)
    (k : p.textsFrom (s.past ahead f.left) = p.textsFrom (t.past ahead f.right)) :
    p.textsFrom s = p.textsFrom t := by
  induction ahead generalizing s t with
  | nil =>
    have hl : s.past [] f.left = s := Spot.past_nil ht.left
    have hr : t.past [] f.right = t := Spot.past_nil ht.right
    rwa [hl, hr] at k
  | cons c ahead ih =>
    have hl : s.rest = c :: (ahead ++ f.left) := ht.left
    have hr : t.rest = c :: (ahead ++ f.right) := ht.right
    have hnext : f.Twins ahead (s.past [c] (ahead ++ f.left)) (t.past [c] (ahead ++ f.right)) :=
      ht.after
    rw [textsFrom_cons hl, textsFrom_cons hr, h.texts_eq ht trivial, ih hnext]
    rwa [Spot.past_past, Spot.past_past]

end Twins

section Quotations

variable {p : Pattern} {accepts : Char → Bool} {s : Spot} {closing c : Char}
  {content rest : List Char}

theorem failsOn_nil (h : Needs accepts p) : p.FailsOn [] := by
  intro s hs
  refine fails_of_forall_not_meets fun t ht => ?_
  obtain ⟨taken, hsp⟩ := ht.exists_spans
  obtain rfl := (List.append_eq_nil_iff.1 (hsp.rest.symm.trans hs)).1
  cases h ht hsp

theorem failsOn_of_shuns (hn : Needs accepts p) (hs : p.shuns none) (hc : p.shuns (some c))
    (hw : isWord c = false) (rest : List Char) : p.FailsOn (c :: rest) := by
  intro t ht
  let f : Fork := ⟨[], c :: rest, t.offset, t.offset⟩
  have htwins : f.Twins [] ⟨t.offset, t.before, [], t.captures⟩ t :=
    ⟨rfl, ht, rfl, rfl, rfl, rfl⟩
  have halike : Alike f (fun _ => True) (fun _ => True) p :=
    alike_of_shuns hs hc (by simp [f, hw])
  exact halike.fails htwins trivial (failsOn_nil hn _ rfl)

theorem fails_within (h : p.search content = none) (hs : p.shuns none)
    (hc : p.shuns (some closing)) (hw : isWord closing = false)
    (hr : s.rest = content ++ closing :: rest) (hb : s.before.any isWord = false)
    (hcaptures : s.captures = []) {ys zs : List Char} (he : content = ys ++ zs) :
    p.Fails (s.past ys (zs ++ closing :: rest)) := by
  let start : Spot := ⟨0, none, content, []⟩
  let f : Fork := ⟨[], closing :: rest, content.length, s.offset + content.length⟩
  have htwins : f.Twins (ys ++ zs) start s :=
    f.twins_start (by rw [List.append_nil, he]) (he ▸ hr) (he ▸ rfl) (he ▸ rfl) hb hcaptures
  have halike : Alike f (fun _ => True) (fun _ => True) p :=
    alike_of_shuns hs hc (by simp [f, hw])
  refine halike.fails htwins.past trivial (fails_of_matchAt ?_)
  have hall : ∀ d ∈ ys, (fun _ : Char => true) d := fun _ _ => rfl
  have hspans : start.Spans ys (start.past ys (zs ++ f.left)) :=
    Spot.spans_past (he.trans (by rw [List.append_nil]))
  exact List.findSome?_eq_none_iff.1 h _ (Spot.mem_runFrom_of_spans hspans hall rfl)

theorem fails_before_found (h : ∀ m ∈ p.search (content ++ rest), content.length ≤ m.start)
    (hs : p.shuns none) (hr : s.rest = content ++ rest) (hb : s.before.any isWord = false)
    (hcaptures : s.captures = []) {ys zs : List Char} (he : content = ys ++ zs) (hz : zs ≠ []) :
    p.Fails (s.past ys (zs ++ rest)) := by
  let start : Spot := ⟨0, none, content ++ rest, []⟩
  let f : Fork := ⟨[], [], (content ++ rest).length, s.offset + (content ++ rest).length⟩
  have htext : ys ++ (zs ++ rest) = content ++ rest := by rw [he, List.append_assoc]
  have htwins : f.Twins (ys ++ (zs ++ rest)) start s :=
    f.twins_start (by rw [List.append_nil, htext]) (by rw [List.append_nil, htext, hr])
      (htext ▸ rfl) (htext ▸ rfl) hb hcaptures
  have halike : Alike f (fun _ => True) (fun _ => True) p := alike_of_shuns hs hs rfl
  have hlater :
      ∀ m ∈ start.onward.findSome? p.matchAt, start.offset + content.length ≤ m.start := by
    intro m hm
    rw [Nat.zero_add]
    exact h m hm
  have hnone : p.matchAt (start.past ys (zs ++ rest)) = none :=
    matchAt_past_eq_none hlater rfl he hz
  have hleft := fails_of_matchAt hnone
  rw [← List.append_nil (zs ++ rest)] at hleft ⊢
  exact halike.fails htwins.past trivial hleft

theorem textsFrom_quotation {q : Pattern} {opening : Char} (hq : ∀ s, p.Fails s → q.Fails s)
    (hn : Needs accepts p) (hs : p.shuns none) (ho : p.shuns (some opening))
    (hc : p.shuns (some closing)) (hwo : isWord opening = false) (hwc : isWord closing = false)
    (h : ∀ ys zs, content = ys ++ zs → zs ≠ [] →
      q.Fails (s.past (opening :: ys) (zs ++ closing :: rest)))
    (hr : s.rest = opening :: (content ++ closing :: rest)) :
    q.textsFrom s = q.textsFrom (s.past (opening :: (content ++ [closing])) rest) := by
  refine textsFrom_past (by simp [hr]) fun ys zs he hz => ?_
  cases ys with
  | nil =>
    obtain rfl := List.nil_append _ ▸ he
    exact hq _ (failsOn_of_shuns hn hs ho hwo _ _ rfl)
  | cons c ys =>
    obtain ⟨rfl, htext⟩ := List.cons.inj he
    obtain rfl | ⟨front, d, rfl⟩ := zs.eq_nil_or_concat
    · exact absurd rfl hz
    rw [List.append_eq, List.concat_eq_append, ← List.append_assoc] at htext
    obtain ⟨hcontent, hlast⟩ := List.append_inj' htext rfl
    obtain rfl := (List.cons.inj hlast).1
    rw [List.concat_eq_append, List.append_assoc]
    cases front with
    | nil => exact hq _ (failsOn_of_shuns hn hs hc hwc _ _ rfl)
    | cons e front => exact h ys (e :: front) hcontent (List.cons_ne_nil e front)

theorem textsFrom_eq_of_twins {t : Spot} {f : Fork} {ahead : List Char} (hs : p.shuns none)
    (hl : f.left = []) (hr : f.right = []) (ht : f.Twins ahead s t) :
    p.textsFrom s = p.textsFrom t := by
  have halike : Alike f (fun _ => True) (fun _ => True) p :=
    alike_of_shuns (by rwa [hl]) (by rwa [hr]) (by rw [hl, hr])
  refine halike.textsFrom_eq ht ?_
  have hlast : f.Twins [] (s.past ahead f.left) (t.past ahead f.right) := by
    have hfull : f.Twins (ahead ++ []) s t := by rwa [List.append_nil]
    exact hfull.past
  have hend {u : Spot} (hu : u.rest = []) : p.textsFrom u = p.tryAt (fun v => some v.texts) u := by
    obtain ⟨offset, before, text, captures⟩ := u
    obtain rfl : text = [] := hu
    show List.findSome? _ [_] = _
    rw [List.findSome?_cons, List.findSome?_nil]
    cases p.tryAt (fun v => some v.texts) _ <;> rfl
  rw [hend hl, hend hr]
  exact halike.texts_eq hlast trivial

end Quotations

end SchemaText.Pattern
