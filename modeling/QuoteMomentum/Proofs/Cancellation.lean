import QuoteMomentum.Proofs.Pacing

/-!
# A cancelled request costs nothing

A request whose stop event is already set does not touch the bucket. A request
that took its token, has to wait, and is stopped during the wait hands the
token back, and the token comes back whole: the level it was taken from was at
most the capacity, so the release is not cut off at the capacity. The bucket
is then as the refill at the request's clock left it, and a refill changes
when the tokens were counted, not how many the bucket shows at any later
clock (`Bucket.level_refill_of_le`).

Two buckets that show the same at every clock from `t` on (`Bucket.Agree`)
cannot be told apart by what comes after: a step reads a bucket only through
its refill at the step's clock, or leaves it as it is, so both answer each
step alike and stay in agreement (`Bucket.step_agree`), and so along every
run that does not move the clock back (`Bucket.run_agree`). The bucket a
cancelled request leaves agrees with the one it found, so every later run
reports the same grants, waits and levels as if the request had never been
made (`Bucket.cancelled_request_consumes_nothing`).
-/

namespace QuoteMomentum

namespace Bucket

open Numeric

/-- A refilled bucket is the bucket with the level it shows. -/
theorem refill_eq (b : Bucket ℚ) (u : ℚ) : b.refill u = ⟨b.capacity, b.rate, b.level u, u⟩ := rfl

/-- A refill at `t` leaves the level at every later clock as it was: it only
moves the time from which the rate counts. -/
theorem level_refill_of_le (b : Bucket ℚ) (hr : 0 ≤ b.rate) {t u : ℚ} (hu : t ≤ u) :
    (b.refill t).level u = b.level u := by
  have hgain : 0 ≤ (u - t) * b.rate := mul_nonneg (by linarith) hr
  rw [level_eq, refill_tokens, refill_capacity, refill_updated, refill_rate, level_eq, level_eq]
  -- the refill at `t` either stopped below the capacity, or at it, where the
  -- later level stays too
  rcases le_total (b.tokens + (t - b.updated) * b.rate) b.capacity with h | h
  · rw [min_eq_right h]
    congr 1
    ring
  · rw [min_eq_left h, min_eq_left (by linarith), min_eq_left (by linarith)]

/-- Two buckets agree from clock `t` on when they show the same bucket at every
clock from `t` on. -/
def Agree (t : ℚ) (b b' : Bucket ℚ) : Prop := ∀ u, t ≤ u → b.refill u = b'.refill u

variable {b b' : Bucket ℚ} {t : ℚ}

theorem Agree.refl (t : ℚ) (b : Bucket ℚ) : Agree t b b := fun _ _ => rfl

theorem Agree.symm (h : Agree t b b') : Agree t b' b := fun u hu => (h u hu).symm

theorem Agree.later {t' : ℚ} (h : Agree t b b') (ht : t ≤ t') : Agree t' b b' :=
  fun u hu => h u (ht.trans hu)

/-- A bucket agrees from `t` on with its refill at `t`. -/
theorem agree_refill (hr : 0 ≤ b.rate) (t : ℚ) : Agree t b (b.refill t) := by
  intro u hu
  rw [refill_eq, refill_eq (b.refill t), level_refill_of_le b hr hu]
  rfl

/-- Taking a token reads the bucket only through its refill. -/
theorem reserve_congr (h : b.refill t = b'.refill t) : b.reserve t = b'.reserve t := by
  simp only [reserve, h]

/-- A request that does not stop at once reads the bucket only through its
refill. -/
theorem acquire_congr {c : Cancel} (hc : c ≠ .already) (h : b.refill t = b'.refill t) :
    b.acquire c t = b'.acquire c t := by
  have hna : (c == Cancel.already) = false := by simpa using hc
  simp only [acquire, hna, reserve_congr h, Bool.false_eq_true, if_false]

/-- Buckets in agreement answer a step alike and stay in agreement, at the
clock after it. -/
theorem step_agree (h : Agree t b b') {s : Step ℚ} (hs : s.Forward) :
    (b.step t s).2 = (b'.step t s).2 ∧ Agree (b.step t s).2.1 (b.step t s).1 (b'.step t s).1 := by
  have hnow : b.refill t = b'.refill t := h t le_rfl
  cases s with
  | advance dt =>
    -- the clock moves on and both buckets stay as they were
    have hdt : 0 ≤ dt := by simpa [Step.Forward] using hs
    exact ⟨rfl, (h.later (by linarith : t ≤ t + dt) : Agree (t + dt) b b')⟩
  | available =>
    have he : b.step t .available = b'.step t .available := by
      simp only [step, available, hnow]
    rw [he]
    exact ⟨rfl, Agree.refl _ _⟩
  | acquire c =>
    by_cases hc : c = .already
    · -- a stopped request leaves both buckets as they were
      subst hc
      exact ⟨rfl, h⟩
    · have he : b.step t (.acquire c) = b'.step t (.acquire c) := by
        simp only [step, acquire_congr hc hnow]
      rw [he]
      exact ⟨rfl, Agree.refl _ _⟩

/-- Buckets in agreement report alike along every run that does not move the
clock back, and end in agreement. -/
theorem run_agree (ss : List (Step ℚ)) (h : Agree t b b') (hfw : ∀ s ∈ ss, s.Forward) :
    (b.run t ss).2 = (b'.run t ss).2 ∧ Agree (b.run t ss).2.1 (b.run t ss).1 (b'.run t ss).1 := by
  induction ss generalizing b b' t with
  | nil => exact ⟨rfl, h⟩
  | cons s ss ih =>
    obtain ⟨hsame, hagree⟩ := step_agree h (hfw s List.mem_cons_self)
    rcases he : b.step t s with ⟨b₁, t₁, r⟩
    rcases he' : b'.step t s with ⟨b₁', t₁', r'⟩
    rw [he, he'] at hsame
    rw [he, he'] at hagree
    obtain ⟨rfl, rfl⟩ := Prod.mk.inj hsame
    obtain ⟨hrest, hend⟩ := ih hagree fun x hx => hfw x (List.mem_cons_of_mem s hx)
    rw [run_cons ss he, run_cons ss he']
    exact ⟨by rw [hrest], hend⟩

/-- **A cancelled request consumes nothing.** Read exactly: in every state a
bucket of positive capacity and rate reaches from the moment it is made, along
a clock that never goes back, and at every clock, a request whose stop event is
already set returns nothing and leaves the bucket and the clock as they were.
A request that has to wait a positive time and is stopped during the wait
returns nothing, leaves the clock, and gives its token back whole; the bucket
it leaves shows the level the bucket showed, at every later clock, and every
later run reports what it would have reported without the request. -/
theorem cancelled_request_consumes_nothing (cap rate start : ℚ) (hcap : 0 < cap)
    (hrate : 0 < rate) (pre : List (Step ℚ)) (hfw : ∀ s ∈ pre, s.Forward) (now : ℚ) :
    let b := ((full cap rate start).run start pre).1
    b.acquire .already now = (b, none, now) ∧
      (0 < (b.reserve now).2 →
        b.acquire .fires now = ((b.reserve now).1.release, none, now) ∧
        (b.reserve now).1.release.tokens = (b.reserve now).1.tokens + 1 ∧
        (∀ u, now ≤ u → (b.acquire .fires now).1.level u = b.level u) ∧
        ∀ post : List (Step ℚ), (∀ s ∈ post, s.Forward) →
          ((b.acquire .fires now).1.run now post).2 = (b.run now post).2) := by
  intro b
  have hr : 0 < b.rate := (run_sound pre (full_sound hcap hrate) hfw).1.rate_pos
  refine ⟨rfl, fun hdelay => ?_⟩
  have hback : (b.reserve now).1.release = b.refill now := release_reserve b now
  -- a positive wait means less than a whole token was there
  have hfires : b.acquire .fires now = ((b.reserve now).1.release, none, now) := by
    rcases acquire_cases b now hr .fires with ⟨hc, -⟩ | ⟨-, hl, -⟩ | ⟨-, -, he⟩ | ⟨-, hc, -⟩
    · cases hc
    · have hzero : (b.reserve now).2 = 0 := by
        rw [reserve_snd, if_pos (by linarith)]
      exact absurd hdelay (by rw [hzero]; exact lt_irrefl 0)
    · rw [he, hback]
    · exact absurd rfl hc
  have hagree : Agree now (b.refill now) b := (agree_refill hr.le now).symm
  refine ⟨hfires, ?_, fun u hu => ?_, fun post hpost => ?_⟩
  · rw [hback, reserve_fst, refill_tokens, sub_add_cancel]
  · rw [hfires, hback]
    exact level_refill_of_le b hr.le hu
  · rw [hfires, hback]
    exact (run_agree post hagree hpost).1

/-- A bucket of one token at one request a second, emptied at clock 0: a
second request at 0 would wait a second, and stopped during the wait it
consumes nothing. -/
theorem cancelled_wait_in_emptied_bucket :
    let b := ((full (1 : ℚ) 1 0).run 0 [.acquire .none]).1
    b.acquire .already 0 = (b, none, 0) ∧ 0 < (b.reserve 0).2 ∧
      b.acquire .fires 0 = ((b.reserve 0).1.release, none, 0) ∧
      (b.reserve 0).1.release.tokens = (b.reserve 0).1.tokens + 1 ∧
      (∀ u, 0 ≤ u → (b.acquire .fires 0).1.level u = b.level u) ∧
      ∀ post : List (Step ℚ), (∀ s ∈ post, s.Forward) →
        ((b.acquire .fires 0).1.run 0 post).2 = (b.run 0 post).2 := by
  intro b
  have h := cancelled_request_consumes_nothing 1 1 0 (by norm_num) (by norm_num) [.acquire .none]
    (by simp [Step.Forward]) 0
  have hdelay : 0 < (b.reserve 0).2 := by decide +kernel
  exact ⟨h.1, hdelay, h.2 hdelay⟩

end Bucket

end QuoteMomentum
