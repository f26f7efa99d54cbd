import ZephyrGuide.Kernel.System
import ZephyrGuide.Libc.Printf

/-!
# The logging example: one thread, a loop of cycles

`docs/examples/part6/logging/src/main.c`.  `main` prints a banner, logs two lines, and loops:
each cycle logs its number, reads channels 0, 1 and 2 with `read_sensor` and passes each value to
`process_data`; every third cycle it also reads channel -1, which fails; every fifth it dumps
sixteen bytes.  `read_sensor` takes the next of five fixed values, in turn, from its static
`idx`, and adds 100 per channel.

* **No threshold warning is ever logged** (`no_threshold_warning`): every value `process_data`
  receives is a table value plus at most 200, between 2350 and 2610, so its two `LOG_WRN`
  branches are never taken.
* **What each cycle logs** (`cycle_output`): cycle `n` reads the values at positions
  `3n + ⌊n/3⌋`, `+ 1` and `+ 2` of the table, counted modulo 5.  The failed read of every third
  cycle takes a value too, since `idx++` comes before the check of the channel, so the sequence
  of readings skips one value every three cycles.

The program is one thread whose only input is nothing: a run is the start and a number of
cycles, and the state after `n` cycles is `afterCycles board n`.  `idx` and `cycle` are `int`s;
they are kept as 32-bit words, and `idx % ARRAY_SIZE(values)`, taken in `size_t`, reads `idx` as
unsigned.  The formula for cycle `n` is proved for `n < 2 ^ 30`.  `cycle` stays below `INT_MAX`
there, but `idx`, `3n + ⌊n/3⌋` before cycle `n`, passes `INT_MAX` during cycle 644245094: C
leaves that signed overflow undefined, and the model reads it as two's-complement wrap, with the
index then read as an unsigned 32-bit word.  Up to cycle 644245093 every value is as C defines
it.  Logging calls are recorded in the order they are made, with the message each formats; the
prefix the backend adds is not part of the model, nor is `k_msleep`.
-/

set_option autoImplicit false

namespace ZephyrGuide
namespace Logging

open Libc

/-- `static int values[]` of `read_sensor`. -/
def values : List Int := [2350, 2400, 2380, 2410, 2395]

/-- `EINVAL`, in Zephyr's numbering. -/
def EINVAL : Int := 22

/-- `LOG_LEVEL_DBG`. -/
def LOG_LEVEL_DBG : Int := 4

/-- `raw_data` of `log_raw_data`. -/
def rawData : List UInt8 :=
  [0xDE, 0xAD, 0xBE, 0xEF, 0x01, 0x02, 0x03, 0x04, 0x10, 0x20, 0x30, 0x40, 0x50, 0x60, 0x70, 0x80]

/-- A `printk` or logging call, with what it formats. -/
inductive Line
  | printk (text : List Char)
  | dbg (text : List Char)
  | inf (text : List Char)
  | wrn (text : List Char)
  | err (text : List Char)
  /-- `LOG_HEXDUMP_DBG(data, length, label)`. -/
  | hexdump (data : List UInt8) (label : List Char)
  deriving DecidableEq, Repr

/-- The statics, `main`'s `cycle`, and the output. -/
structure State where
  /-- `static int idx` of `read_sensor`. -/
  idx : BitVec 32
  /-- `int cycle` of `main`. -/
  cycle : BitVec 32
  /-- `main` is in its loop. -/
  started : Bool
  out : List Line

/-- `idx = 0`, before `main`. -/
def init : State := ⟨0, 0, false, []⟩

/-- A call that prints or logs `l`. -/
def State.log (s : State) (l : Line) : State := { s with out := s.out ++ [l] }

/-! ## The functions of `main.c` -/

/-- `read_sensor(channel)`: the state after it and the value it returns.  The index
`idx % ARRAY_SIZE(values)` is taken in `size_t`, so it is `idx` read as unsigned, modulo 5. -/
def readSensor (s : State) (channel : Int) : State × Int :=
  let val := values.getD (s.idx.toNat % values.length) 0
  let s := ({ s with idx := s.idx + 1 } : State).log
    (.dbg ("Reading sensor channel ".toList ++ fmtInt 0 channel))
  if channel < 0 ∨ channel > 3 then
    (s.log (.err ("Invalid sensor channel: ".toList ++ fmtInt 0 channel)), -EINVAL)
  else (s, val + channel * 100)

/-- The `LOG_INF` of `process_data` for a value in range: `%d.%02d C` of `value / 100` and
`value % 100`. -/
def okLine (value : Int) : Line :=
  .inf ("Sensor value OK: ".toList ++ fmtInt 0 (value.tdiv 100) ++ '.' :: fmtInt 2 (value.tmod 100) ++
    " C".toList)

/-- `process_data(value)`. -/
def processData (s : State) (value : Int) : State :=
  if value < 2000 then s.log (.wrn ("Sensor value below threshold: ".toList ++ fmtInt 0 value))
  else if value > 3000 then s.log (.wrn ("Sensor value above threshold: ".toList ++ fmtInt 0 value))
  else s.log (okLine value)

/-- `log_raw_data()`. -/
def logRawData (s : State) : State :=
  (s.log (.inf "Raw sensor register dump:".toList)).log (.hexdump rawData "registers".toList)

/-- One round of the `for (int ch = 0; ch < 3; ch++)` loop. -/
def readChannel (s : State) (ch : Int) : State :=
  if 0 ≤ (readSensor s ch).2 then processData (readSensor s ch).1 (readSensor s ch).2
  else (readSensor s ch).1

/-- `main` up to its loop, on board `board` (`CONFIG_BOARD`). -/
def mainStart (board : List Char) (s : State) : State :=
  let s := ((((s.log (.printk "\n".toList)).log (.printk "Logging Example\n".toList)).log
    (.printk "===============\n".toList)).log
    (.printk "This example demonstrates LOG_ERR, LOG_WRN, LOG_INF, LOG_DBG\n\n".toList))
  let s := s.log (.inf ("Application started on ".toList ++ board))
  { s.log (.inf ("Log level: ".toList ++ fmtInt 0 LOG_LEVEL_DBG ++
      " (0=NONE, 1=ERR, 2=WRN, 3=INF, 4=DBG)".toList)) with started := true }

/-- One cycle of `main`'s loop, up to its `k_msleep`.  `cycle % 3` and `cycle % 5` are C's. -/
def mainCycle (s : State) : State :=
  let s := s.log (.inf ("--- Cycle ".toList ++ fmtInt 0 s.cycle.toInt ++ " ---".toList))
  let s := [0, 1, 2].foldl readChannel s
  let s :=
    if s.cycle.toInt.tmod 3 = 2 then
      if (readSensor s (-1)).2 < 0 then
        (readSensor s (-1)).1.log
          (.err ("Sensor read failed (err ".toList ++ fmtInt 0 (readSensor s (-1)).2 ++ ")".toList))
      else (readSensor s (-1)).1
    else s
  let s := if s.cycle.toInt.tmod 5 = 0 then logRawData s else s
  { s with cycle := s.cycle + 1 }

/-- `main`'s start, or one cycle of its loop. -/
inductive Act
  | start
  | cycle
  deriving DecidableEq, Repr

/-- The example on board `board`. -/
def program (board : List Char) : System State Act where
  init := init
  step s
    | .start => if s.started then none else some (mainStart board s)
    | .cycle => if s.started then some (mainCycle s) else none

/-- The state after the banner and `n` cycles. -/
def afterCycles (board : List Char) (n : Nat) : State := mainCycle^[n] (mainStart board init)

/-! ## What a cycle logs

The lines are named after what prints them; `cycleLines n` is the closed form for cycle `n`. -/

/-- The banner and the two `LOG_INF`s before the loop. -/
def startLines (board : List Char) : List Line :=
  [.printk "\n".toList, .printk "Logging Example\n".toList, .printk "===============\n".toList,
    .printk "This example demonstrates LOG_ERR, LOG_WRN, LOG_INF, LOG_DBG\n\n".toList,
    .inf ("Application started on ".toList ++ board),
    .inf ("Log level: ".toList ++ fmtInt 0 LOG_LEVEL_DBG ++ " (0=NONE, 1=ERR, 2=WRN, 3=INF, 4=DBG)".toList)]

/-- Reading channel `ch` with `idx` at `k`, and passing the value on. -/
def readingLines (k : Nat) (ch : Int) : List Line :=
  [.dbg ("Reading sensor channel ".toList ++ fmtInt 0 ch),
    okLine (values.getD (k % values.length) 0 + ch * 100)]

/-- The read of channel -1 and its error. -/
def failedReadLines : List Line :=
  [.dbg ("Reading sensor channel ".toList ++ fmtInt 0 (-1)),
    .err ("Invalid sensor channel: ".toList ++ fmtInt 0 (-1)),
    .err ("Sensor read failed (err ".toList ++ fmtInt 0 (-EINVAL) ++ ")".toList)]

/-- What `log_raw_data` logs. -/
def rawDumpLines : List Line :=
  [.inf "Raw sensor register dump:".toList, .hexdump rawData "registers".toList]

/-- What cycle `n` logs: the readings at positions `3n + n / 3`, `+ 1`, `+ 2` of `values`, the
failed read when `n % 3 = 2`, the dump when `n % 5 = 0`. -/
def cycleLines (n : Nat) : List Line :=
  .inf ("--- Cycle ".toList ++ fmtInt 0 n ++ " ---".toList) ::
    readingLines (3 * n + n / 3) 0 ++ readingLines (3 * n + n / 3 + 1) 1 ++
      readingLines (3 * n + n / 3 + 2) 2 ++ (if n % 3 = 2 then failedReadLines else []) ++
      (if n % 5 = 0 then rawDumpLines else [])

/-! ## What each function does -/

/-- Every value of the table is between 2350 and 2410. -/
theorem values_getD_range (i : Nat) :
    2350 ≤ values.getD (i % values.length) 0 ∧ values.getD (i % values.length) 0 ≤ 2410 := by
  have h : i % values.length < 5 := Nat.mod_lt _ (by decide)
  generalize i % values.length = j at h ⊢
  interval_cases j <;> decide

@[simp] theorem log_idx (s : State) (l : Line) : (s.log l).idx = s.idx := rfl
@[simp] theorem log_cycle (s : State) (l : Line) : (s.log l).cycle = s.cycle := rfl
@[simp] theorem log_out (s : State) (l : Line) : (s.log l).out = s.out ++ [l] := rfl
@[simp] theorem log_started (s : State) (l : Line) : (s.log l).started = s.started := rfl

/-- `read_sensor` on a channel in range: it logs the channel, takes the next value, and returns
it with 100 per channel added. -/
theorem readSensor_of_valid (s : State) {ch : Int} (h0 : 0 ≤ ch) (h3 : ch ≤ 3) :
    (readSensor s ch).1.out = s.out ++ [.dbg ("Reading sensor channel ".toList ++ fmtInt 0 ch)] ∧
      (readSensor s ch).1.idx = s.idx + 1 ∧ (readSensor s ch).1.cycle = s.cycle ∧
      (readSensor s ch).2 = values.getD (s.idx.toNat % values.length) 0 + ch * 100 := by
  simp only [readSensor]
  rw [if_neg (by omega)]
  exact ⟨rfl, rfl, rfl, rfl⟩

/-- `read_sensor` on a negative channel: it logs the channel and the error, takes a value all
the same, and returns `-EINVAL`. -/
theorem readSensor_of_neg (s : State) {ch : Int} (h : ch < 0) :
    (readSensor s ch).1.out = s.out ++ [.dbg ("Reading sensor channel ".toList ++ fmtInt 0 ch),
        .err ("Invalid sensor channel: ".toList ++ fmtInt 0 ch)] ∧
      (readSensor s ch).1.idx = s.idx + 1 ∧ (readSensor s ch).1.cycle = s.cycle ∧
      (readSensor s ch).2 = -EINVAL := by
  simp only [readSensor]
  rw [if_pos (.inl h)]
  exact ⟨by simp, rfl, rfl, rfl⟩

/-- A round of the channel loop on channel 0, 1 or 2: the value read is in range, so
`process_data` logs it as such. -/
theorem readChannel_out (s : State) {ch : Int} (h0 : 0 ≤ ch) (h2 : ch ≤ 2) :
    (readChannel s ch).out = s.out ++ [.dbg ("Reading sensor channel ".toList ++ fmtInt 0 ch),
        okLine (values.getD (s.idx.toNat % values.length) 0 + ch * 100)] ∧
      (readChannel s ch).idx = s.idx + 1 ∧ (readChannel s ch).cycle = s.cycle := by
  obtain ⟨hout, hidx, hcycle, hval⟩ := readSensor_of_valid s h0 (by omega)
  have := values_getD_range s.idx.toNat
  simp only [readChannel, processData, hval]
  rw [if_pos (by omega), if_neg (by omega), if_neg (by omega)]
  simp [hout, hidx, hcycle]

@[simp] theorem readSensor_started (s : State) (ch : Int) : (readSensor s ch).1.started = s.started := by
  unfold readSensor; split_ifs <;> rfl

@[simp] theorem readChannel_started (s : State) (ch : Int) : (readChannel s ch).started = s.started := by
  simp only [readChannel, processData]; split_ifs <;> simp

theorem foldl_readChannel (s : State) :
    ([0, 1, 2].foldl readChannel s).out = s.out ++ readingLines s.idx.toNat 0 ++
        readingLines (s.idx + 1).toNat 1 ++ readingLines (s.idx + 2).toNat 2 ∧
      ([0, 1, 2].foldl readChannel s).idx = s.idx + 3 ∧
      ([0, 1, 2].foldl readChannel s).cycle = s.cycle := by
  obtain ⟨o0, i0, c0⟩ := readChannel_out s (le_refl 0) (by decide)
  obtain ⟨o1, i1, c1⟩ := readChannel_out (readChannel s 0) (by decide : (0 : Int) ≤ 1) (by decide)
  obtain ⟨o2, i2, c2⟩ :=
    readChannel_out (readChannel (readChannel s 0) 1) (by decide : (0 : Int) ≤ 2) (le_refl 2)
  have e2 : s.idx + 1 + 1 = s.idx + 2 := by rw [BitVec.add_assoc]; rfl
  have e3 : s.idx + 2 + 1 = s.idx + 3 := by rw [BitVec.add_assoc]; rfl
  simp only [List.foldl, o2, o1, o0, i1, i0, i2, c2, c1, c0, e2, e3, readingLines, List.append_assoc,
    and_self]

/-- **One cycle of the loop.**  It logs its number and the three readings from `idx` on, then the
failed read if `cycle % 3 == 2`, which takes one more value, and the dump if `cycle % 5 == 0`. -/
theorem mainCycle_spec (s : State) :
    (mainCycle s).out = s.out ++ .inf ("--- Cycle ".toList ++ fmtInt 0 s.cycle.toInt ++ " ---".toList) ::
        (readingLines s.idx.toNat 0 ++ readingLines (s.idx + 1).toNat 1 ++
          readingLines (s.idx + 2).toNat 2 ++
          (if s.cycle.toInt.tmod 3 = 2 then failedReadLines else []) ++
          (if s.cycle.toInt.tmod 5 = 0 then rawDumpLines else [])) ∧
      (mainCycle s).idx = s.idx + 3 + (if s.cycle.toInt.tmod 3 = 2 then 1 else 0) ∧
      (mainCycle s).cycle = s.cycle + 1 := by
  obtain ⟨ho, hi, hc⟩ := foldl_readChannel (s.log (.inf ("--- Cycle ".toList ++
    fmtInt 0 s.cycle.toInt ++ " ---".toList)))
  simp only [mainCycle]
  generalize [0, 1, 2].foldl readChannel _ = t at ho hi hc ⊢
  obtain ⟨fo, fi, fc, fv⟩ := readSensor_of_neg t (by decide : (-1 : Int) < 0)
  simp only [log_idx, log_cycle, log_out] at ho hi hc
  have hE : -EINVAL < 0 := by decide
  simp only [hc, fv, fc, hE, ↓reduceIte]
  by_cases h3 : s.cycle.toInt.tmod 3 = 2 <;> by_cases h5 : s.cycle.toInt.tmod 5 = 0 <;>
    simp [h3, h5, ho, hi, hc, fo, fi, fc, logRawData, failedReadLines, rawDumpLines, BitVec.add_assoc]

theorem mainCycle_started (s : State) : (mainCycle s).started = s.started := by
  simp only [mainCycle]
  split_ifs <;> simp only [logRawData, log_started, readSensor_started, List.foldl,
    readChannel_started]

theorem mainStart_spec (board : List Char) (s : State) :
    (mainStart board s).out = s.out ++ startLines board ∧ (mainStart board s).idx = s.idx ∧
      (mainStart board s).cycle = s.cycle ∧ (mainStart board s).started = true := by
  simp [mainStart, startLines]

/-! ## Every run -/

/-- What a step of the example can be: the start, once, or a cycle after it. -/
theorem step_eq_some {board : List Char} {s t : State} {a : Act}
    (h : (program board).step s a = some t) :
    (a = .start ∧ t = mainStart board s) ∨ (a = .cycle ∧ t = mainCycle s) := by
  cases a <;> simp only [program] at h <;> split at h
  · exact nomatch h
  · exact .inl ⟨rfl, (Option.some.inj h).symm⟩
  · exact .inr ⟨rfl, (Option.some.inj h).symm⟩
  · exact nomatch h

/-- **No threshold warning is ever logged.**  Every value `process_data` is given is a table value
plus at most 200, so neither `LOG_WRN` of it is reached, in any cycle. -/
theorem no_threshold_warning (board : List Char) {s : State} (hs : (program board).Reachable s)
    (text : List Char) : Line.wrn text ∉ s.out := by
  refine System.Invariant.holds (P := fun s : State => ∀ text, Line.wrn text ∉ s.out)
    ⟨fun _ => List.not_mem_nil _, ?_⟩ hs text
  intro s t a hP h
  rcases step_eq_some h with ⟨-, rfl⟩ | ⟨-, rfl⟩
  · simp [(mainStart_spec board s).1, startLines, hP]
  · rw [(mainCycle_spec s).1]
    simp only [List.mem_append, List.mem_cons, hP, readingLines, okLine, failedReadLines]
    split_ifs <;> simp [rawDumpLines]

/-- The start and a cycle log no warning. -/
theorem one_cycle_logs_no_warning :
    (program []).Reachable (afterCycles [] 1) ∧ ∀ text, Line.wrn text ∉ (afterCycles [] 1).out :=
  have h : (program []).Reachable (afterCycles [] 1) :=
    System.reachable_of_run
      (show (program []).run init [Act.start, Act.cycle] = some (afterCycles [] 1) from rfl)
  ⟨h, no_threshold_warning [] h⟩

/-- `cycle` as C's `int` while it is below `2 ^ 31`. -/
theorem toInt_ofNat_of_lt {n : Nat} (h : n < 2 ^ 31) : (BitVec.ofNat 32 n).toInt = n := by
  rw [BitVec.toInt_eq_toNat_cond, BitVec.toNat_ofNat, Nat.mod_eq_of_lt (by omega)]
  simp only [show 2 * n < 2 ^ 32 from by omega, ↓reduceIte]

/-- C's `%` of a cycle number that is not negative. -/
theorem natCast_tmod_eq_iff (n : Nat) {m k : Nat} (hm : 0 < m) :
    (n : Int).tmod m = k ↔ n % m = k := by
  rw [Int.tmod_eq_emod (by omega) (by omega)]
  omega

theorem afterCycles_succ (board : List Char) (n : Nat) :
    afterCycles board (n + 1) = mainCycle (afterCycles board n) :=
  Function.iterate_succ_apply' _ _ _

/-- After `n` cycles, `idx` is the 32-bit word `3n + ⌊n/3⌋`, `cycle` is `n`, and the output is
the start and cycles `0` to `n - 1`. -/
theorem afterCycles_spec (board : List Char) {n : Nat} (hn : n ≤ 2 ^ 30) :
    (afterCycles board n).idx = BitVec.ofNat 32 (3 * n + n / 3) ∧
      (afterCycles board n).cycle = BitVec.ofNat 32 n ∧
      (afterCycles board n).out = startLines board ++ (List.range n).flatMap cycleLines := by
  induction n with
  | zero =>
    obtain ⟨o, i, c, -⟩ := mainStart_spec board init
    exact ⟨i, c, by simpa using o⟩
  | succ n ih =>
    obtain ⟨hi, hc, ho⟩ := ih (by omega)
    obtain ⟨mo, mi, mc⟩ := mainCycle_spec (afterCycles board n)
    have hint : (afterCycles board n).cycle.toInt = n := by rw [hc, toInt_ofNat_of_lt (by omega)]
    have t3 : (n : Int).tmod 3 = 2 ↔ n % 3 = 2 := natCast_tmod_eq_iff n (by decide)
    have t5 : (n : Int).tmod 5 = 0 ↔ n % 5 = 0 := natCast_tmod_eq_iff n (by decide)
    have hpos (k : Nat) (hk : k ≤ 2) :
        ((afterCycles board n).idx + BitVec.ofNat 32 k).toNat = 3 * n + n / 3 + k := by
      rw [hi, BitVec.toNat_add, BitVec.toNat_ofNat, BitVec.toNat_ofNat]
      omega
    simp only [hint, t3, t5, BitVec.ofNat_eq_ofNat, hpos 1 (by omega), hpos 2 (by omega)] at mo mi
    rw [afterCycles_succ, mi, mc, mo, ho, hi, hc]
    refine ⟨?_, by simp only [BitVec.ofNat_eq_ofNat, BitVec.ofNat_add_ofNat], ?_⟩
    · split_ifs <;> simp only [BitVec.ofNat_add_ofNat] <;> exact congrArg _ (by omega)
    · rw [BitVec.toNat_ofNat, Nat.mod_eq_of_lt (by omega)]
      simp [List.range_succ, cycleLines]

/-- Cycles from a started `main` are runs of the example. -/
theorem run_cycles (board : List Char) {s : State} (h : s.started = true) (n : Nat) :
    (program board).run s (List.replicate n .cycle) = some (mainCycle^[n] s) := by
  induction n generalizing s with
  | zero => rfl
  | succ n ih =>
    simp only [List.replicate_succ, System.run, program, h, ↓reduceIte, Option.some_bind]
    exact ih ((mainCycle_started s).trans h)

/-- **What the example logs.**  The start and `n` cycles are a run, and it logs the banner and
then `cycleLines 0`, ..., `cycleLines (n - 1)`: readings at positions `3k + ⌊k/3⌋`, `+ 1`, `+ 2`
of `values` in cycle `k`, the failed read in every cycle `k` with `k % 3 = 2`, and the dump in
every cycle with `k % 5 = 0`. -/
theorem cycle_output (board : List Char) (n : Nat) (hn : n < 2 ^ 30) :
    ∃ s, (program board).run init (.start :: List.replicate n .cycle) = some s ∧
      s.out = startLines board ++ (List.range n).flatMap cycleLines :=
  ⟨afterCycles board n, run_cycles board (mainStart_spec board init).2.2.2 n,
    (afterCycles_spec board hn.le).2.2⟩

/-- Cycle 2 reads channel -1 and logs the failure. -/
theorem third_cycle_logs_failed_read :
    ∃ s, (program []).run init (.start :: List.replicate 3 .cycle) = some s ∧
      Line.err "Sensor read failed (err -22)".toList ∈ s.out := by
  obtain ⟨s, hr, ho⟩ := cycle_output [] 3 (by norm_num)
  exact ⟨s, hr, by rw [ho]; decide⟩

end Logging
end ZephyrGuide
