import Mathlib.Data.List.Intervals
import AmdSmiCli.Interface

/-!
# The watch loop

`handle_watch` runs a subcommand repeatedly: while the clock has not passed `start + watch_time` when a watch time
is given (`durationLoop`), `iterations` times when only a count is (`countLoop`), and forever otherwise
(`foreverLoop`). A run is observed as its events, the subcommand's calls and the sleeps, and whether it returned;
loops that may not end take fuel, a bound on their passes. Times are counted in whole ticks of the clock, and the
clock is a stream: `clock i` is the value of the `i`-th call of `time.time()`.

- `countLoop_range`: `n` calls with one sleep between each two (`watchTrace`);
- `durationLoop_checks`: the same trace in the duration branch while the clock's checks pass, for a count `n ≥ 1`;
  with `n = 0` it still calls once (`watch_zero_iterations_runs`);
- `durationLoop_bounded`: with a cadence `w > 0` and a clock that advances by `w` across each sleep, the duration
  branch returns after at most `d / w + 1` calls (`watch_duration_terminates`);
- a watch time of `0` is false to `if watch_time:`: with no count the loop never returns
  (`watch_zero_time_forever`).
-/

namespace AmdSmiCli

/-- What `handle_watch` does that can be observed. -/
inductive WatchEvent where
  /-- `subcommand(args, watching_output=True)`. -/
  | subcommand
  /-- `time.sleep(watch)`. -/
  | sleep (seconds : Nat)
  deriving DecidableEq, Repr

/-- The events of a run and whether it returned within its fuel. -/
abbrev WatchRun := List WatchEvent × Bool

/-- Prefix one pass's events to a run. -/
def WatchRun.after (evs : List WatchEvent) (r : WatchRun) : WatchRun := (evs ++ r.1, r.2)

/-! ## The loops -/

/-- `while time.time() <= end_time:` at the clock's `i`-th call, with `iterations_ran = ran`, for at most `fuel`
more passes. -/
def durationLoop (watch : Nat) (iterations : Option Nat) (endTime : Nat) (clock : Nat → Nat) :
    Nat → Nat → Nat → WatchRun
  | 0, _, _ => ([], false)
  | fuel + 1, i, ran =>
    if clock i ≤ endTime then
      match iterations with
      | some n =>
        if n ≤ ran + 1 then ([.subcommand], true)
        else (durationLoop watch iterations endTime clock fuel (i + 1) (ran + 1)).after [.subcommand, .sleep watch]
      | none => (durationLoop watch iterations endTime clock fuel (i + 1) (ran + 1)).after [.subcommand, .sleep watch]
    else ([], true)

/-- `for iteration in range(iterations):`, breaking after the call of the last iteration. -/
def countLoop (watch iterations : Nat) : List Nat → List WatchEvent
  | [] => []
  | iteration :: rest =>
    if iteration = iterations - 1 then [.subcommand]
    else .subcommand :: .sleep watch :: countLoop watch iterations rest

/-- `while True:`, for `fuel` passes. -/
def foreverLoop (watch : Nat) : Nat → WatchRun
  | 0 => ([], false)
  | fuel + 1 => (foreverLoop watch fuel).after [.subcommand, .sleep watch]

/-- `handle_watch` with `args.watch`, `args.watch_time` and `args.iterations`; `if watch_time:` is false for `None`
and for `0`. The end time is the clock's first call plus the watch time. -/
def handleWatch (watch : Nat) (watchTime iterations : Option Nat) (clock : Nat → Nat) (fuel : Nat) : WatchRun :=
  match watchTime.filter (· != 0), iterations with
  | some d, _ => durationLoop watch iterations (clock 0 + d) clock fuel 1 0
  | none, some n => (countLoop watch n (List.range n), true)
  | none, none => foreverLoop watch fuel

/-- `n` calls with a sleep of `w` between each two and none after the last. -/
def watchTrace (w n : Nat) : List WatchEvent := (List.replicate n WatchEvent.subcommand).intersperse (.sleep w)

theorem watchTrace_succ_succ (w n : Nat) :
    watchTrace w (n + 2) = .subcommand :: .sleep w :: watchTrace w (n + 1) := by
  simp [watchTrace, List.replicate_succ]

/-! ## Counted runs -/

/-- **The count loop** over the last `m` iterations of `range(n)`: `m` calls, a sleep between each two. -/
theorem countLoop_range' (w n : Nat) : ∀ m k, k + m = n → countLoop w n (List.range' k m) = watchTrace w m
  | 0, _, _ => rfl
  | 1, k, h => by simp [List.range', countLoop, watchTrace, show k = n - 1 by omega]
  | m + 2, k, h => by
    rw [List.range'_succ, countLoop, if_neg (by omega), countLoop_range' w n (m + 1) (k + 1) (by omega),
      watchTrace_succ_succ]

theorem countLoop_range (w n : Nat) : countLoop w n (List.range n) = watchTrace w n := by
  rw [List.range_eq_range']
  exact countLoop_range' w n n 0 (Nat.zero_add n)

/-- **The duration loop under a count**, at the clock's `i`-th call with `n - m` passes run: while the checks of the
next `m ≥ 1` passes find the clock before the end time, it makes the last `m` calls of `watchTrace` and returns. -/
theorem durationLoop_checks (w n endTime : Nat) (clock : Nat → Nat) :
    ∀ m fuel i ran, 1 ≤ m → ran + m = n → m ≤ fuel →
      (∀ j, i ≤ j → j < i + m → clock j ≤ endTime) →
      durationLoop w (some n) endTime clock fuel i ran = (watchTrace w m, true)
  | 0, _, _, _, h, _, _, _ => absurd h (by omega)
  | _ + 1, 0, _, _, _, _, hf, _ => absurd hf (by omega)
  | m + 1, fuel + 1, i, ran, _, hn, hf, hc => by
    rw [durationLoop, if_pos (hc i le_rfl (by omega))]
    by_cases hlast : n ≤ ran + 1
    · rw [if_pos hlast, show m = 0 by omega]; rfl
    · obtain ⟨m', rfl⟩ : ∃ m', m = m' + 1 := ⟨m - 1, by omega⟩
      rw [if_neg hlast, durationLoop_checks w n endTime clock (m' + 1) fuel (i + 1) (ran + 1) (by omega) (by omega)
        (by omega) fun j hj hj' => hc j (by omega) (by omega), watchTrace_succ_succ]
      rfl

/-- **A counted watch**: with `args.iterations = n`, `handle_watch` makes `n` calls with one sleep between each two
and returns: for every clock when the watch time is `None` or `0`, and when a watch time is given, for `n ≥ 1`, when
the clock's checks before the `n` calls find it before the end time. -/
theorem watch_count_trace (w n : Nat) :
    (∀ watchTime clock fuel, watchTime = none ∨ watchTime = some 0 →
      handleWatch w watchTime (some n) clock fuel = (watchTrace w n, true)) ∧
    (∀ d clock fuel, 1 ≤ n → 0 < d → n ≤ fuel → (∀ j, 1 ≤ j → j ≤ n → clock j ≤ clock 0 + d) →
      handleWatch w (some d) (some n) clock fuel = (watchTrace w n, true)) := by
  refine ⟨fun watchTime clock fuel hw => ?_, fun d clock fuel hn hd hf hc => ?_⟩
  · rcases hw with rfl | rfl <;> exact congrArg (·, true) (countLoop_range w n)
  · have hfilter : (some d).filter (· != 0) = some d := by simp [Option.filter, Nat.pos_iff_ne_zero.1 hd]
    simp only [handleWatch, hfilter]
    exact durationLoop_checks w n _ clock n fuel 1 0 hn (Nat.zero_add n) hf fun j hj hj' => hc j hj (by omega)

/-- With `args.iterations = 0` and a watch time whose end the clock has not passed, the subcommand still runs
once. -/
theorem watch_zero_iterations_runs : handleWatch 1 (some 5) (some 0) (fun _ => 0) 1 = ([.subcommand], true) := by
  decide

/-! ## Runs bounded by the clock -/

@[simp] theorem WatchRun.after_fst (evs : List WatchEvent) (r : WatchRun) : (r.after evs).1 = evs ++ r.1 := rfl

@[simp] theorem WatchRun.after_snd (evs : List WatchEvent) (r : WatchRun) : (r.after evs).2 = r.2 := rfl

section Clock

variable {w d : Nat} {clock : Nat → Nat}

/-- A clock whose checks are each at least `w` after the one before: the `(i+1)`-th call is `i * w` past the
first. -/
theorem clock_lower (h0 : clock 0 ≤ clock 1) (hs : ∀ i, clock (i + 1) + w ≤ clock (i + 2)) :
    ∀ i, clock 0 + i * w ≤ clock (i + 1)
  | 0 => by simpa using h0
  | i + 1 => by
    have := clock_lower h0 hs i
    have := hs i
    rw [Nat.succ_mul, show i + 1 + 1 = i + 2 from rfl]
    omega

/-- **The duration loop ends**: at the clock's `(i+1)`-th call, after `i ≤ d / w + 1` passes, the loop makes at most
`d / w + 1 - i` more calls, and returns when its fuel exceeds that. -/
theorem durationLoop_bounded (hw : 0 < w) (hc : ∀ i, clock 0 + i * w ≤ clock (i + 1)) (its : Option Nat) :
    ∀ fuel i ran, i ≤ d / w + 1 →
      (durationLoop w its (clock 0 + d) clock fuel (i + 1) ran).1.count .subcommand + i ≤ d / w + 1 ∧
      (d / w + 1 < fuel + i → (durationLoop w its (clock 0 + d) clock fuel (i + 1) ran).2 = true)
  | 0, i, _, hi => ⟨by simpa [durationLoop] using hi, fun h => absurd h (by omega)⟩
  | fuel + 1, i, ran, hi => by
    simp only [durationLoop]
    split
    · have hpass : i ≤ d / w := (Nat.le_div_iff_mul_le hw).2 (by have := hc i; omega)
      have ih := durationLoop_bounded hw hc its fuel (i + 1) (ran + 1) (by omega)
      -- a pass that goes on: one call and one sleep, then the loop from the next check
      have hnext :
          let r := WatchRun.after [.subcommand, .sleep w]
            (durationLoop w its (clock 0 + d) clock fuel (i + 1 + 1) (ran + 1))
          r.1.count .subcommand + i ≤ d / w + 1 ∧ (d / w + 1 < fuel + 1 + i → r.2 = true) := by
        simp only [WatchRun.after_fst, WatchRun.after_snd, List.count_append]
        exact ⟨by simp; omega, fun h => ih.2 (by omega)⟩
      cases its with
      | some n =>
        by_cases hn : n ≤ ran + 1
        · simp only [hn, if_true]
          exact ⟨by simp; omega, fun _ => trivial⟩
        · simp only [hn, if_false]
          exact hnext
      | none => exact hnext
    · exact ⟨by simpa using hi, fun _ => rfl⟩

end Clock

/-- **A timed watch ends**: with a cadence `w > 0`, a watch time `d > 0`, with or without a count, and a clock whose
checks are each at least `w` after the one before, every run makes at most `d / w + 1` calls, and the run returns
within `d / w + 2` passes. -/
theorem watch_duration_terminates (w d : Nat) (iterations : Option Nat) (clock : Nat → Nat) (hw : 0 < w)
    (hd : 0 < d) (h0 : clock 0 ≤ clock 1) (hs : ∀ i, clock (i + 1) + w ≤ clock (i + 2)) :
    (∀ fuel, (handleWatch w (some d) iterations clock fuel).1.count .subcommand ≤ d / w + 1) ∧
    (handleWatch w (some d) iterations clock (d / w + 2)).2 = true := by
  have hfilter : (some d).filter (· != 0) = some d := by simp [Option.filter, Nat.pos_iff_ne_zero.1 hd]
  have hb := @durationLoop_bounded w d clock hw (clock_lower h0 hs) iterations
  simp only [handleWatch, hfilter]
  exact ⟨fun fuel => (hb fuel 0 0 (Nat.zero_le _)).1, (hb _ 0 0 (Nat.zero_le _)).2 (by omega)⟩

/-- A cadence of one tick, a watch time of two and a clock that advances one tick per call. -/
theorem watch_two_ticks_unit_clock :
    (handleWatch 1 (some 2) none (fun i => i) 4).1.count .subcommand ≤ 3 ∧
      (handleWatch 1 (some 2) none (fun i => i) 4).2 = true :=
  ⟨(watch_duration_terminates 1 2 none (fun i => i) Nat.one_pos (by decide) (Nat.zero_le 1) fun i => le_rfl).1 4,
    (watch_duration_terminates 1 2 none (fun i => i) Nat.one_pos (by decide) (Nat.zero_le 1) fun i => le_rfl).2⟩

theorem foreverLoop_run (w : Nat) : ∀ fuel, (foreverLoop w fuel).2 = false ∧
    (foreverLoop w fuel).1.count .subcommand = fuel
  | 0 => ⟨rfl, rfl⟩
  | fuel + 1 => by
    obtain ⟨h2, h1⟩ := foreverLoop_run w fuel
    simp [foreverLoop, h2, h1, List.count_cons]

/-- With `args.watch_time = 0` and no count, `if watch_time:` is false and the loop is `while True:`: for every
cadence and clock, a run given fuel for any number of passes has not returned and has called the subcommand once per
pass. -/
theorem watch_zero_time_forever (w : Nat) (clock : Nat → Nat) (fuel : Nat) :
    (handleWatch w (some 0) none clock fuel).2 = false ∧
      (handleWatch w (some 0) none clock fuel).1.count .subcommand = fuel :=
  foreverLoop_run w fuel

end AmdSmiCli
