import Mathlib.Algebra.Order.Field.Rat
import Mathlib.Tactic.Linarith
import Mathlib.Tactic.Ring
import QuoteMomentum.Feed.Bucket

/-!
# Pacing: what a token bucket lets through

A caller uses the bucket on its own clock, one step after another: the clock
moves on, a request asks for its slot (and sleeps out its wait, or meets a stop
event), or the level is read. Read over exact rationals, the bucket keeps two
promises, whatever the idle times, waits and cancellations of the run:

* the level it shows at the current clock stays between zero and the
  capacity, and a request that has to wait waits exactly until the level is
  back at zero, so the next request again starts from a level of at least zero
  (`Bucket.step_sound`, `Bucket.run_sound`, `Bucket.level_sound_on_run`);
* in any window `[lo, hi]` of the clock, the requests granted that finish
  inside it number at most `max capacity 1 + rate * (hi - lo)`: the burst and
  the sustained rate, never more (`Bucket.grants_within_window`).

The second is an account of the level. A granted request lowers the level by
one, time raises it by at most the rate, and right after a grant the level is
at most `max capacity 1 - 1`. `Bucket.Paced` carries the account along a run;
each step's part of it is `Bucket.step_account`.
-/

namespace QuoteMomentum

open Numeric

namespace Bucket

/-- A step of a caller that uses the bucket on its own clock. -/
inductive Step (α : Type) where
  /-- The clock moves on by `dt`. -/
  | advance (dt : α)
  /-- A request asks for its slot, meeting the stop event as `cancel` says. -/
  | acquire (cancel : Cancel)
  /-- The level is read. -/
  | available

/-- What a step reports. -/
inductive Report (α : Type) where
  | moved
  /-- The wait of a request; none when it was not sent. -/
  | waited (wait : Option α)
  | level (tokens : α)

variable {α : Type} [Numeric α]

/-- Whether a report is that of a request that was sent. -/
def Report.granted : Report α → Bool
  | .waited (some _) => true
  | _ => false

/-- A step that does not move the clock back. -/
def Step.Forward : Step α → Prop
  | .advance dt => ofNat 0 ≤ dt
  | _ => True

/-- The level the bucket shows at clock `now`: its tokens and what they earned
since the last update, at most the capacity. -/
def level (b : Bucket α) (now : α) : α := (b.refill now).tokens

/-- One step at clock `now`: the bucket and the clock after it, and its report. -/
def step (b : Bucket α) (now : α) : Step α → Bucket α × α × Report α
  | .advance dt => (b, now + dt, .moved)
  | .acquire c =>
    let (b', w, now') := b.acquire c now
    (b', now', .waited w)
  | .available =>
    let (b', x) := b.available now
    (b', now, .level x)

/-- A run of steps from clock `now`: the bucket and the clock after the last
one, and each step's report with the clock after it. -/
def run (b : Bucket α) (now : α) : List (Step α) → Bucket α × α × List (Report α × α)
  | [] => (b, now, [])
  | s :: ss =>
    let (b₁, t₁, r) := b.step now s
    let (b₂, t₂, rs) := b₁.run t₁ ss
    (b₂, t₂, (r, t₁) :: rs)

/-- The requests of a trace that were sent and finished within `[lo, hi]`. -/
def grantsWithin (lo hi : α) (trace : List (Report α × α)) : Nat :=
  trace.countP fun e => e.1.granted && decide (lo ≤ e.2) && decide (e.2 ≤ hi)

/-! ## Exact arithmetic -/

@[simp] theorem ofNat_rat (n : ℕ) : (ofNat n : ℚ) = n := rfl

@[simp] theorem keepMin_rat (x y : ℚ) : keepMin x y = min x y := by
  unfold keepMin
  split
  · rename_i h
    exact (min_eq_right h.le).symm
  · rename_i h
    exact (min_eq_left (not_lt.mp h)).symm

section Exact

variable (b : Bucket ℚ) (t : ℚ)

theorem level_eq : b.level t = min b.capacity (b.tokens + (t - b.updated) * b.rate) := by
  simp [level, refill]

theorem level_le_capacity : b.level t ≤ b.capacity := by
  rw [level_eq]
  exact min_le_left _ _

@[simp] theorem refill_capacity : (b.refill t).capacity = b.capacity := rfl

@[simp] theorem refill_rate : (b.refill t).rate = b.rate := rfl

@[simp] theorem refill_tokens : (b.refill t).tokens = b.level t := rfl

@[simp] theorem refill_updated : (b.refill t).updated = t := rfl

/-- Refilling changes the tokens and the time of the update, not the level. -/
theorem level_refill : (b.refill t).level t = b.level t := by
  rw [level_eq, refill_tokens, level_eq b t]
  simp [refill]

/-- Time raises the level by at most the rate, and never lowers it. -/
theorem level_advance {dt : ℚ} (hr : 0 ≤ b.rate) (hdt : 0 ≤ dt) :
    b.level t ≤ b.level (t + dt) ∧ b.level (t + dt) ≤ b.level t + b.rate * dt := by
  have hgain : 0 ≤ dt * b.rate := mul_nonneg hdt hr
  rw [level_eq, level_eq]
  constructor
  · apply min_le_min_left
    linarith
  · rcases min_cases b.capacity (b.tokens + (t - b.updated) * b.rate) with ⟨h, _⟩ | ⟨h, _⟩
    · rw [h]
      have := min_le_left b.capacity (b.tokens + (t + dt - b.updated) * b.rate)
      linarith
    · rw [h]
      have := min_le_right b.capacity (b.tokens + (t + dt - b.updated) * b.rate)
      linarith

/-- The bucket right after a request took its token at `t`. -/
theorem reserve_fst : (b.reserve t).1 = { b.refill t with tokens := b.level t - 1 } := rfl

theorem reserve_snd :
    (b.reserve t).2 = if 0 ≤ b.level t - 1 then 0 else -(b.level t - 1) / b.rate := rfl

/-- After a request took its token at `t`, the level at `t + s` is what was
left plus what the next `s` seconds earn. -/
theorem level_reserve (s : ℚ) :
    (b.reserve t).1.level (t + s) = min b.capacity (b.level t - 1 + s * b.rate) := by
  rw [reserve_fst, level_eq]
  simp

/-- A token given back right after it was taken leaves the bucket as a refill does. -/
theorem release_reserve : (b.reserve t).1.release = b.refill t := by
  have hcap := level_le_capacity b t
  simp only [release, reserve_fst, refill_capacity, keepMin_rat, ofNat_rat, Nat.cast_one,
    sub_add_cancel, min_eq_right hcap]
  rfl

/-- What a request does, by how it meets the stop event and whether a whole
token is there to take. -/
theorem acquire_cases (hr : 0 < b.rate) (c : Cancel) :
    (c = .already ∧ b.acquire c t = (b, none, t)) ∨
    (c ≠ .already ∧ 1 ≤ b.level t ∧ b.acquire c t = ((b.reserve t).1, some 0, t)) ∨
    (c = .fires ∧ b.level t < 1 ∧ b.acquire c t = (b.refill t, none, t)) ∨
    (c ≠ .already ∧ c ≠ .fires ∧ b.level t < 1 ∧
      b.acquire c t = ((b.reserve t).1, some ((1 - b.level t) / b.rate),
        t + (1 - b.level t) / b.rate)) := by
  -- the wait is positive exactly when less than a whole token is there
  have hwait : (b.reserve t).2 ≤ 0 ↔ 1 ≤ b.level t := by
    rw [reserve_snd]
    split
    · rename_i h
      exact ⟨fun _ => by linarith, fun _ => le_refl 0⟩
    · rename_i h
      have hpos : 0 < -(b.level t - 1) / b.rate := div_pos (by linarith) hr
      exact ⟨fun h' => absurd h' (not_le.mpr hpos), fun h' => absurd (by linarith) h⟩
  have hdelay : 1 ≤ b.level t ∨ (b.reserve t).2 = (1 - b.level t) / b.rate := by
    rw [reserve_snd]
    split
    · left; linarith
    · right; rw [neg_sub]
  by_cases hc : c = .already
  · subst hc
    exact Or.inl ⟨rfl, rfl⟩
  have hna : (c == Cancel.already) ≠ true := by simpa using hc
  by_cases hl : 1 ≤ b.level t
  · refine Or.inr (Or.inl ⟨hc, hl, ?_⟩)
    have hle : (b.reserve t).2 ≤ ofNat 0 := by simpa using hwait.mpr hl
    simp only [acquire]
    rw [if_neg hna, if_pos hle]
    rfl
  have hlt : b.level t < 1 := not_le.mp hl
  have hgt : ¬ (b.reserve t).2 ≤ ofNat 0 := by simpa using mt hwait.mp hl
  by_cases hf : c = .fires
  · subst hf
    refine Or.inr (Or.inr (Or.inl ⟨rfl, hlt, ?_⟩))
    simp only [acquire]
    rw [if_neg hna, if_neg hgt, if_pos (by decide), release_reserve]
  · refine Or.inr (Or.inr (Or.inr ⟨hc, hf, hlt, ?_⟩))
    have hnf : (c == Cancel.fires) ≠ true := by simpa using hf
    simp only [acquire]
    rw [if_neg hna, if_neg hgt, if_neg hnf, hdelay.resolve_left hl]

/-- Right after a request took its token, the level is what was there less one. -/
theorem level_reserve_now : (b.reserve t).1.level t = b.level t - 1 := by
  have hcap := level_le_capacity b t
  have h := level_reserve b t 0
  rw [add_zero, zero_mul, add_zero] at h
  rw [h, min_eq_right (by linarith)]

/-- A request that found less than a whole token, waiting until the level is back
at zero: after `u` seconds of the wait the level is `rate * (u - wait)`, negative
before the wait is over and zero when it is. -/
theorem level_reserve_during (hr : 0 < b.rate) (hcap : 0 ≤ b.capacity) {u : ℚ}
    (hu : u ≤ (1 - b.level t) / b.rate) :
    (b.reserve t).1.level (t + u) = b.rate * (u - (1 - b.level t) / b.rate) := by
  have hpaid : b.rate * ((1 - b.level t) / b.rate) = 1 - b.level t := mul_div_cancel₀ _ hr.ne'
  have hneg : b.rate * (u - (1 - b.level t) / b.rate) ≤ 0 :=
    mul_nonpos_of_nonneg_of_nonpos hr.le (by linarith)
  rw [level_reserve, mul_sub, hpaid, min_eq_right (by linarith)]
  ring

end Exact

/-! ## One step -/

/-- A bucket at clock `now` as every step of a run keeps it: its rate is
positive, its tokens are at most the capacity, and the level it shows is at
least zero. -/
structure Sound (b : Bucket ℚ) (now : ℚ) : Prop where
  rate_pos : 0 < b.rate
  tokens_le : b.tokens ≤ b.capacity
  level_nonneg : 0 ≤ b.level now

/-- A freshly made bucket is sound. -/
theorem full_sound {cap rate now : ℚ} (hcap : 0 < cap) (hrate : 0 < rate) :
    Sound (full cap rate now) now where
  rate_pos := hrate
  tokens_le := le_refl cap
  level_nonneg := by
    rw [level_eq]
    simp [full, hcap.le]

theorem Sound.capacity_nonneg {b : Bucket ℚ} {t : ℚ} (h : Sound b t) : 0 ≤ b.capacity :=
  h.level_nonneg.trans (level_le_capacity b t)

/-- A refilled bucket is sound where the bucket was. -/
theorem Sound.refill {b : Bucket ℚ} {t : ℚ} (h : Sound b t) : Sound (b.refill t) t where
  rate_pos := h.rate_pos
  tokens_le := level_le_capacity b t
  level_nonneg := by
    rw [level_refill]
    exact h.level_nonneg

/-- What a step does, read off the request's cases: the clock moves on; the
level is read after a refill; nothing changes; a cancelled wait leaves the
bucket refilled; a whole token is taken at once; or less than a whole token is
taken and the request waits until the level is back at zero. -/
theorem step_cases (b : Bucket ℚ) (t : ℚ) (hr : 0 < b.rate) (s : Step ℚ) :
    (∃ dt, s = .advance dt ∧ b.step t s = (b, t + dt, .moved)) ∨
    b.step t s = (b.refill t, t, .level (b.level t)) ∨
    b.step t s = (b, t, .waited none) ∨
    b.step t s = (b.refill t, t, .waited none) ∨
    (1 ≤ b.level t ∧ b.step t s = ((b.reserve t).1, t, .waited (some 0))) ∨
    (b.level t < 1 ∧ b.step t s = ((b.reserve t).1, t + (1 - b.level t) / b.rate,
      .waited (some ((1 - b.level t) / b.rate)))) := by
  cases s with
  | advance dt => exact Or.inl ⟨dt, rfl, rfl⟩
  | available => exact Or.inr (Or.inl rfl)
  | acquire c =>
    rcases acquire_cases b t hr c with ⟨-, he⟩ | ⟨-, hl, he⟩ | ⟨-, hl, he⟩ | ⟨-, -, hl, he⟩
    · exact Or.inr (Or.inr (Or.inl (by simp [step, he])))
    · exact Or.inr (Or.inr (Or.inr (Or.inr (Or.inl ⟨hl, by simp [step, he]⟩))))
    · exact Or.inr (Or.inr (Or.inr (Or.inl (by simp [step, he]))))
    · exact Or.inr (Or.inr (Or.inr (Or.inr (Or.inr ⟨hl, by simp [step, he]⟩))))

/-- The number of requests a report grants, as a level is counted. -/
def Report.grant (r : Report ℚ) : ℚ := if r.granted then 1 else 0

variable {b b' : Bucket ℚ} {t t' : ℚ} {s : Step ℚ} {r : Report ℚ}

/-- Every step keeps the bucket sound: a step is one of the cases of
`step_cases`, and each leaves a level of at least zero. -/
theorem step_sound (h : Sound b t) (hs : s.Forward) : Sound (b.step t s).1 (b.step t s).2.1 := by
  rcases step_cases b t h.rate_pos s with ⟨dt, rfl, he⟩ | he | he | he | ⟨hl, he⟩ | ⟨hl, he⟩ <;>
    rw [he]
  · have hdt : 0 ≤ dt := by simpa [Step.Forward] using hs
    exact ⟨h.rate_pos, h.tokens_le,
      h.level_nonneg.trans (level_advance b t h.rate_pos.le hdt).1⟩
  · exact h.refill
  · exact h
  · exact h.refill
  · refine ⟨h.rate_pos, ?_, ?_⟩
    · simp only [reserve_fst, refill_capacity]
      linarith [level_le_capacity b t]
    · rw [level_reserve_now]
      linarith
  · refine ⟨h.rate_pos, ?_, ?_⟩
    · simp only [reserve_fst, refill_capacity]
      linarith [h.capacity_nonneg]
    · rw [level_reserve_during b t h.rate_pos h.capacity_nonneg le_rfl, sub_self, mul_zero]

/-- The account of one step: the clock does not go back; the level after it,
with one for a request granted, is at most the level before and what the rate
added meanwhile; and a grant leaves at most `max capacity 1 - 1`. -/
theorem step_account (h : Sound b t) (hs : s.Forward) (he : b.step t s = (b', t', r)) :
    t ≤ t' ∧ r.grant + b'.level t' ≤ b.level t + b.rate * (t' - t) ∧
      r.grant + b'.level t' ≤ max b.capacity 1 := by
  have hcap := level_le_capacity b t
  have hmax : b.capacity ≤ max b.capacity 1 := le_max_left _ _
  rcases step_cases b t h.rate_pos s with ⟨dt, rfl, hd⟩ | hd | hd | hd | ⟨hl, hd⟩ | ⟨hl, hd⟩ <;>
    rw [hd, Prod.mk.injEq, Prod.mk.injEq] at he <;> obtain ⟨rfl, rfl, rfl⟩ := he <;>
    simp only [Report.grant, Report.granted, if_true, Bool.false_eq_true, if_false, zero_add]
  · -- the clock moves on: the level gains at most what the rate adds
    have hdt : 0 ≤ dt := by simpa [Step.Forward] using hs
    have hgain := (level_advance b t h.rate_pos.le hdt).2
    refine ⟨by linarith, by rw [add_sub_cancel_left]; exact hgain,
      (level_le_capacity b (t + dt)).trans hmax⟩
  · -- the level is read after a refill, which keeps it
    rw [level_refill, sub_self, mul_zero, add_zero]
    exact ⟨le_rfl, le_rfl, hcap.trans hmax⟩
  · rw [sub_self, mul_zero, add_zero]
    exact ⟨le_rfl, le_rfl, hcap.trans hmax⟩
  · -- a cancelled wait gives its token back
    rw [level_refill, sub_self, mul_zero, add_zero]
    exact ⟨le_rfl, le_rfl, hcap.trans hmax⟩
  · -- a whole token taken at once
    rw [level_reserve_now, sub_self, mul_zero]
    refine ⟨le_rfl, by linarith, by linarith⟩
  · -- less than a whole token: the wait pays for the rest of it
    have hw : 0 ≤ (1 - b.level t) / b.rate := div_nonneg (by linarith) h.rate_pos.le
    have hpaid : b.rate * ((1 - b.level t) / b.rate) = 1 - b.level t :=
      mul_div_cancel₀ _ h.rate_pos.ne'
    rw [level_reserve_during b t h.rate_pos h.capacity_nonneg le_rfl, sub_self, mul_zero,
      add_sub_cancel_left, hpaid]
    refine ⟨by linarith, by linarith, by simp⟩

/-- A step keeps the capacity and the rate. -/
theorem step_frame (h : Sound b t) (s : Step ℚ) :
    (b.step t s).1.capacity = b.capacity ∧ (b.step t s).1.rate = b.rate := by
  rcases step_cases b t h.rate_pos s with ⟨dt, -, he⟩ | he | he | he | ⟨-, he⟩ | ⟨-, he⟩ <;>
    rw [he] <;> exact ⟨rfl, rfl⟩

/-- What a step from a sound bucket reports: a level of at least zero, a wait
of at least zero, and a positive wait that ends exactly when the level is back
at zero, the level being negative before. -/
theorem step_report (h : Sound b t) (he : b.step t s = (b', t', r)) :
    (∀ x, r = .level x → 0 ≤ x) ∧
      (∀ w, r = .waited (some w) → 0 ≤ w ∧
        (0 < w → t' = t + w ∧ b'.level t' = 0 ∧ ∀ u < w, b'.level (t + u) < 0)) := by
  rcases step_cases b t h.rate_pos s with ⟨dt, -, hd⟩ | hd | hd | hd | ⟨-, hd⟩ | ⟨hl, hd⟩ <;>
    rw [hd, Prod.mk.injEq, Prod.mk.injEq] at he <;> obtain ⟨rfl, rfl, rfl⟩ := he
  · simp
  · simpa using h.level_nonneg
  · simp
  · simp
  · simp
  · -- the one request that waits: its wait ends when the level is back at zero
    have hw : 0 < (1 - b.level t) / b.rate := div_pos (by linarith) h.rate_pos
    refine ⟨by simp, fun w hr => ?_⟩
    obtain rfl : (1 - b.level t) / b.rate = w := by simpa using hr
    refine ⟨hw.le, fun _ => ⟨rfl, ?_, fun u hu => ?_⟩⟩
    · rw [level_reserve_during b t h.rate_pos h.capacity_nonneg le_rfl, sub_self, mul_zero]
    · rw [level_reserve_during b t h.rate_pos h.capacity_nonneg hu.le]
      exact mul_neg_of_pos_of_neg h.rate_pos (by linarith)

/-! ## Runs -/

theorem run_cons {b₁ : Bucket ℚ} {t₁ : ℚ} (ss : List (Step ℚ)) (he : b.step t s = (b₁, t₁, r)) :
    b.run t (s :: ss) = ((b₁.run t₁ ss).1, (b₁.run t₁ ss).2.1, (r, t₁) :: (b₁.run t₁ ss).2.2) := by
  simp only [run, he]

/-- Every run on a clock that never goes back keeps the bucket sound, with the
capacity and the rate it started with. -/
theorem run_sound (ss : List (Step ℚ)) (h : Sound b t) (hfw : ∀ s ∈ ss, s.Forward) :
    Sound (b.run t ss).1 (b.run t ss).2.1 ∧
      (b.run t ss).1.capacity = b.capacity ∧ (b.run t ss).1.rate = b.rate := by
  induction ss generalizing b t with
  | nil => exact ⟨h, rfl, rfl⟩
  | cons s ss ih =>
    rcases he : b.step t s with ⟨b₁, t₁, r⟩
    have h₁ : Sound b₁ t₁ := by
      simpa [he] using step_sound h (hfw s List.mem_cons_self)
    have hframe : b₁.capacity = b.capacity ∧ b₁.rate = b.rate := by
      simpa [he] using step_frame h s
    obtain ⟨hsound, hcap, hrate⟩ := ih h₁ fun x hx => hfw x (List.mem_cons_of_mem s hx)
    rw [run_cons ss he]
    exact ⟨hsound, hcap.trans hframe.1, hrate.trans hframe.2⟩

/-! ## The account of a window -/

/-- The account of the window `[lo, hi]` at clock `t`, with `n` requests
granted within the window so far and the level `x`: before the window nothing
was granted in it; inside it, the grants and the level together are at most
the burst and what the rate added since `lo`; after it, the grants are at most
the burst and what the rate adds over the whole window. -/
def Paced (burst rate lo hi : ℚ) (n : ℕ) (x t : ℚ) : Prop :=
  (t < lo → n = 0) ∧ (lo ≤ t → t ≤ hi → n + x ≤ burst + rate * (t - lo)) ∧
    (hi < t → n ≤ burst + rate * (hi - lo))

section Window

variable {burst rate lo hi x x' : ℚ} {n : ℕ}

/-- A step of the clock from `t` to `t'` that grants `g` (zero or one) and
leaves the level `x'` keeps the account, counting its grant when it finishes
inside the window. -/
theorem Paced.step {g : Bool} (hp : Paced burst rate lo hi n x t) (hr : 0 ≤ rate)
    (hwin : lo ≤ hi) (hx : 0 ≤ x) (ht : t ≤ t')
    (hpay : (if g then 1 else 0) + x' ≤ x + rate * (t' - t))
    (hburst : (if g then 1 else 0) + x' ≤ burst) (hb : 1 ≤ burst) :
    Paced burst rate lo hi
      (n + if g && decide (lo ≤ t') && decide (t' ≤ hi) then 1 else 0) x' t' := by
  obtain ⟨hbefore, hwithin, hafter⟩ := hp
  have hg : (0 : ℚ) ≤ if g then 1 else 0 := by split <;> norm_num
  refine ⟨fun h' => ?_, fun h1 h2 => ?_, fun h' => ?_⟩
  · -- the step ends before the window
    have hn : n = 0 := hbefore (by linarith)
    simp [hn, not_le.mpr h']
  · -- the step ends inside the window, where its grant counts
    have hcount : ((if g && decide (lo ≤ t') && decide (t' ≤ hi) then 1 else 0 : ℕ) : ℚ) =
        if g then 1 else 0 := by
      cases g <;> simp [h1, h2]
    rw [Nat.cast_add, hcount]
    rcases lt_or_ge t lo with h0 | h0
    · have hn : n = 0 := hbefore h0
      have hgrow : 0 ≤ rate * (t' - lo) := mul_nonneg hr (by linarith)
      rw [hn, Nat.cast_zero]
      linarith
    · have hprev := hwithin h0 (by linarith)
      linarith
  · -- the step ends after the window, where nothing more counts
    have hcount : (g && decide (lo ≤ t') && decide (t' ≤ hi)) = false := by
      simp [not_le.mpr h']
    rw [hcount]
    simp only [Bool.false_eq_true, if_false, add_zero]
    rcases lt_or_ge t lo with h0 | h0
    · have hgrow : 0 ≤ rate * (hi - lo) := mul_nonneg hr (by linarith)
      rw [hbefore h0, Nat.cast_zero]
      linarith
    · rcases le_or_gt t hi with h1 | h1
      · have hprev := hwithin h0 h1
        have hgrow : rate * (t - lo) ≤ rate * (hi - lo) :=
          mul_le_mul_of_nonneg_left (by linarith) hr
        linarith
      · exact hafter h1

/-- The account bounds the grants within the window. -/
theorem Paced.bound (hp : Paced burst rate lo hi n x t) (hr : 0 ≤ rate) (hwin : lo ≤ hi)
    (hx : 0 ≤ x) (hb : 1 ≤ burst) : (n : ℚ) ≤ burst + rate * (hi - lo) := by
  obtain ⟨hbefore, hwithin, hafter⟩ := hp
  have hgrow : 0 ≤ rate * (hi - lo) := mul_nonneg hr (by linarith)
  rcases lt_or_ge t lo with h0 | h0
  · rw [hbefore h0, Nat.cast_zero]
    linarith
  rcases le_or_gt t hi with h1 | h1
  · have hprev := hwithin h0 h1
    have hle : rate * (t - lo) ≤ rate * (hi - lo) := mul_le_mul_of_nonneg_left (by linarith) hr
    linarith
  · exact hafter h1

/-- A window's account opens with no grants and a level within the burst. -/
theorem Paced.start (hr : 0 ≤ rate) (hwin : lo ≤ hi) (hx : x ≤ burst) (hb : 1 ≤ burst) :
    Paced burst rate lo hi 0 x t := by
  refine ⟨fun _ => rfl, fun h0 _ => ?_, fun _ => ?_⟩
  · have hgrow : 0 ≤ rate * (t - lo) := mul_nonneg hr (by linarith)
    rw [Nat.cast_zero]
    linarith
  · have hgrow : 0 ≤ rate * (hi - lo) := mul_nonneg hr (by linarith)
    rw [Nat.cast_zero]
    linarith

end Window

theorem grantsWithin_cons (lo hi : ℚ) (r : Report ℚ) (t : ℚ) (rs : List (Report ℚ × ℚ)) :
    grantsWithin lo hi ((r, t) :: rs) =
      grantsWithin lo hi rs + if r.granted && decide (lo ≤ t) && decide (t ≤ hi) then 1 else 0 :=
  List.countP_cons

/-- Every run on a clock that never goes back keeps the account of a window:
the account of each step is `step_account`, and `Paced.step` adds it up. -/
theorem run_paced {lo hi : ℚ} {n : ℕ} (ss : List (Step ℚ)) (h : Sound b t) (hwin : lo ≤ hi)
    (hp : Paced (max b.capacity 1) b.rate lo hi n (b.level t) t) (hfw : ∀ s ∈ ss, s.Forward) :
    Paced (max b.capacity 1) b.rate lo hi (n + grantsWithin lo hi (b.run t ss).2.2)
      ((b.run t ss).1.level (b.run t ss).2.1) (b.run t ss).2.1 := by
  induction ss generalizing b t n with
  | nil => simpa [run, grantsWithin] using hp
  | cons s ss ih =>
    rcases he : b.step t s with ⟨b₁, t₁, r⟩
    have hs : s.Forward := hfw s List.mem_cons_self
    have h₁ : Sound b₁ t₁ := by simpa [he] using step_sound h hs
    obtain ⟨hcap, hrate⟩ : b₁.capacity = b.capacity ∧ b₁.rate = b.rate := by
      simpa [he] using step_frame h s
    obtain ⟨ht, hpay, hburst⟩ := step_account h hs he
    have hp₁ := hp.step h.rate_pos.le hwin h.level_nonneg ht hpay hburst (le_max_right _ _)
    rw [← hcap, ← hrate] at hp₁
    have hrun := ih h₁ hp₁ fun x hx => hfw x (List.mem_cons_of_mem s hx)
    rw [run_cons ss he, grantsWithin_cons, ← hcap, ← hrate, Nat.add_comm _ (ite _ _ _),
      ← Nat.add_assoc]
    exact hrun

/-- The level of a freshly made bucket is its capacity. -/
theorem level_full (cap rate now : ℚ) : (full cap rate now).level now = cap := by
  rw [level_eq]
  simp [full]

/-- **Burst and rate.** Read exactly: a bucket of positive capacity and rate,
used from the moment it is made on a clock that never goes back, grants at
most `max capacity 1 + rate * (hi - lo)` requests that finish within any window
`[lo, hi]`, whatever idle times, waits and cancellations came before. -/
theorem grants_within_window (cap rate start lo hi : ℚ) (hcap : 0 < cap) (hrate : 0 < rate)
    (hwin : lo ≤ hi) (steps : List (Step ℚ)) (hfw : ∀ s ∈ steps, s.Forward) :
    (grantsWithin lo hi ((full cap rate start).run start steps).2.2 : ℚ) ≤
      max cap 1 + rate * (hi - lo) := by
  have h₀ : Sound (full cap rate start) start := full_sound hcap hrate
  have hp₀ : Paced (max cap 1) rate lo hi 0 ((full cap rate start).level start) start :=
    Paced.start hrate.le hwin (by rw [level_full]; exact le_max_left _ _)
      (le_max_right _ _)
  have hp := run_paced steps h₀ hwin hp₀ hfw
  have hend := (run_sound steps h₀ hfw).1
  have hbound := hp.bound hrate.le hwin hend.level_nonneg (le_max_right cap 1)
  rwa [Nat.zero_add] at hbound

/-- A burst of three at one request a second, five requests back to back and an
idle second: within the first two seconds at most five finish. -/
theorem five_requests_in_two_seconds :
    (grantsWithin 1000 1002 ((full (3 : ℚ) 1 1000).run 1000
      (List.replicate 5 (.acquire .none) ++ [.advance 1, .acquire .fires])).2.2 : ℚ) ≤
      max 3 1 + 1 * (1002 - 1000) :=
  grants_within_window 3 1 1000 1000 1002 (by norm_num) (by norm_num) (by norm_num) _
    (by simp [Step.Forward])

/-- **Sound levels.** Read exactly: a bucket of positive capacity and rate,
used from the moment it is made on a clock that never goes back, holds at most
its capacity after every step, and the level it shows is between zero and the
capacity. The next step then reads no negative level and waits no negative
time, and a request that waits a positive time finishes exactly when the level
is back at zero, the level being negative until then. -/
theorem level_sound_on_run (cap rate start : ℚ) (hcap : 0 < cap) (hrate : 0 < rate)
    (pre : List (Step ℚ)) (s : Step ℚ) (hfw : ∀ x ∈ pre, x.Forward) :
    let (b, t, _) := (full cap rate start).run start pre
    let (b', t', r) := b.step t s
    (b.tokens ≤ cap ∧ 0 ≤ b.level t ∧ b.level t ≤ cap) ∧
      (∀ x, r = .level x → 0 ≤ x) ∧
      (∀ w, r = .waited (some w) → 0 ≤ w ∧
        (0 < w → t' = t + w ∧ b'.level t' = 0 ∧ ∀ u < w, b'.level (t + u) < 0)) := by
  have h₀ : Sound (full cap rate start) start := full_sound hcap hrate
  obtain ⟨hsound, hcap', -⟩ := run_sound pre h₀ hfw
  rcases hrun : (full cap rate start).run start pre with ⟨b, t, tr⟩
  rw [hrun] at hsound hcap'
  rcases he : b.step t s with ⟨b', t', r⟩
  have hcap_eq : b.capacity = cap := hcap'
  dsimp only
  rw [he]
  exact ⟨⟨hcap_eq ▸ hsound.tokens_le, hsound.level_nonneg, hcap_eq ▸ level_le_capacity b t⟩,
    step_report hsound he⟩

/-- A bucket of one token at one request a second, emptied by a first request:
a second request waits, and finishes when the level is back at zero. -/
theorem second_request_waits_for_the_level :
    let (b, t, _) := (full (1 : ℚ) 1 0).run 0 [.acquire .none]
    let (b', t', r) := b.step t (.acquire .holds)
    (b.tokens ≤ 1 ∧ 0 ≤ b.level t ∧ b.level t ≤ 1) ∧
      (∀ x, r = .level x → 0 ≤ x) ∧
      (∀ w, r = .waited (some w) → 0 ≤ w ∧
        (0 < w → t' = t + w ∧ b'.level t' = 0 ∧ ∀ u < w, b'.level (t + u) < 0)) :=
  level_sound_on_run 1 1 0 (by norm_num) (by norm_num) [.acquire .none] (.acquire .holds)
    (by simp [Step.Forward])

end Bucket

end QuoteMomentum
