import ZephyrGuide.Kernel.System
import ZephyrGuide.Libc.Printf

/-!
# The I2C sensor example

`examples/part5/i2c-sensor/src/main.c`.  `main` prints a banner, calls `configure_sensor` and
`scan_i2c_bus`, and then loops: `read_temperature(&temperature)`, and on success
`LOG_INF("Temperature: %d.%02d C", temperature / 100, abs(temperature % 100))`, on failure
`LOG_ERR("Read failed: %d", ret)`.  Whether there is an I2C bus is fixed when the program is
built (`SIMULATION_MODE`), and each of the three functions has two bodies; the model takes the
mode as the parameter `simulation` of `program`.

* In simulation mode `read_temperature` adds `(sys_rand32_get() % 100) - 50` to its
  `static int16_t sim_temp`, first 2500.  The sum is taken in `unsigned` and stored back in the
  `int16_t`, so it wraps modulo 2¹⁶ (`simDrift_eq`).  A run logs as readings the values
  `sim_temp` takes, one per round, and every `int16_t` is logged in some run; the numeral logged
  reads as the temperature except on `-99 … -1`, where `temperature / 100` is 0 and `abs` has
  dropped the sign (`simulated_reading_value`).
* Otherwise it reads two bytes of the TMP102's register 0 with `i2c_burst_read` and keeps
  `((buf[0] << 8) | buf[1]) >> 4`, the register's 12 bits read as an unsigned number, scaled by
  `625 / 100`.  The TMP102 gives its temperature in two's complement, but nothing here takes the
  sign bit as one: a run logs as readings the fields of its successful reads, each as
  `⌊field · 6.25⌋` hundredths of a degree for a field in `0 … 4095`, so a temperature below 0 °C
  is logged as 128 °C or more (`hardware_reading_unsigned`).
* When `i2c_write` of the configuration fails, the program logs "Sensor not found at 0x48 (using
  simulation)" and "Continuing with simulated readings"; but the mode is fixed, and the loop goes
  on reading the bus.  While every read fails, it logs two errors a round and no temperature at
  all (`failed_reads_log_no_temperature`).

A log message is its level and its formatted text; the prefix the logging backend adds and
`k_sleep` are not modelled.  What the hardware answers is part of the action: whether the device
is ready, its name, what `i2c_write`, `i2c_read` at each address of the scan and
`i2c_burst_read` return, the two bytes read, and what `sys_rand32_get` returns.
-/

set_option autoImplicit false

namespace ZephyrGuide
namespace I2c

open Libc

/-- `TMP102_ADDR`. -/
def TMP102_ADDR : Nat := 0x48

/-- `ENODEV`, in Zephyr's numbering. -/
def ENODEV : Int := 19

/-- A line on the console: text printed with `printk`, or a log message at its level. -/
inductive Line
  | printk (text : List Char)
  | inf (text : List Char)
  | wrn (text : List Char)
  | err (text : List Char)
  deriving DecidableEq, Repr

/-- Where `main` is: before its set-up, or in its loop. -/
inductive Pc
  | start
  | loop
  deriving DecidableEq, Repr

/-- `read_temperature`'s static, `main`'s position, and the console. -/
structure State where
  /-- `static int16_t sim_temp` of `read_temperature`; only simulation mode has it. -/
  simTemp : BitVec 16
  main : Pc
  out : List Line
  deriving DecidableEq, Repr

/-- `sim_temp` as the program defines it, before `main` has run. -/
def init : State where
  simTemp := 2500
  main := .start
  out := []

/-- `printk`, `LOG_INF`, `LOG_WRN` or `LOG_ERR` of the text formatted. -/
def State.log (s : State) (l : Line) : State := { s with out := s.out ++ [l] }

/-! ## The set-up -/

/-- `configure_sensor`.  `ready` is what `device_is_ready(i2c_dev)` returns, `name` is
`i2c_dev->name`, and `writeRet` what `i2c_write` of the configuration returns. -/
def configureSensor (simulation : Bool) (s : State) (ready : Bool) (name : List Char)
    (writeRet : Int) : State × Int :=
  if simulation then (s.log (.inf "Running in simulation mode (no I2C hardware)".toList), 0)
  else if !ready then (s.log (.err "I2C device not ready".toList), -ENODEV)
  else
    let s := s.log (.inf ("I2C device: ".toList ++ name))
    if writeRet < 0 then
      (s.log (.wrn ("Sensor not found at 0x".toList ++ fmtHex 2 TMP102_ADDR ++
        " (using simulation)".toList)), writeRet)
    else (s.log (.inf ("Sensor configured at address 0x".toList ++ fmtHex 2 TMP102_ADDR)), 0)

/-- One round of the scan: `i2c_read` at `addr` returned `ret`. -/
def scanAddr (s : State) (addr : Nat) (ret : Int) : State :=
  if ret = 0 then s.log (.inf ("  Device found at 0x".toList ++ fmtHex 2 addr)) else s

/-- `scan_i2c_bus`; `readRet addr` is what `i2c_read` returns at `addr`, which runs over
`0x08 … 0x77`. -/
def scanI2cBus (simulation : Bool) (s : State) (readRet : Nat → Int) : State :=
  if simulation then s.log (.inf "I2C scan skipped (simulation mode)".toList)
  else
    let s := s.log (.inf "Scanning I2C bus...".toList)
    let s := (List.range' 0x08 (0x78 - 0x08)).foldl (fun s addr => scanAddr s addr (readRet addr)) s
    s.log (.inf "Scan complete".toList)

/-- `main` up to its loop. -/
def mainSetup (simulation : Bool) (s : State) (ready : Bool) (name : List Char) (writeRet : Int)
    (readRet : Nat → Int) : State :=
  let s := (s.log (.printk "I2C Sensor Example\n".toList)).log
    (.printk "==================\n\n".toList)
  let (s, ret) := configureSensor simulation s ready name writeRet
  let s := if ret < 0 ∧ !simulation then s.log (.wrn "Continuing with simulated readings".toList)
    else s
  (scanI2cBus simulation s readRet).log (.printk "\nReading temperature every 2 seconds:\n".toList)

/-! ## Reading the temperature -/

/-- `sim_temp += (sys_rand32_get() % 100) - 50`: `sim_temp` is promoted to `int` and then to
`unsigned`, the sum is taken modulo 2³², and stored back in the `int16_t`. -/
def simDrift (simTemp : BitVec 16) (rand : BitVec 32) : BitVec 16 :=
  (simTemp.signExtend 32 + (rand % 100 - 50)).setWidth 16

/-- `*temp_raw = ((buf[0] << 8) | buf[1]) >> 4`: the bytes are promoted to `int`, and the
result stored in the `int16_t`. -/
def registerField (buf₀ buf₁ : BitVec 8) : BitVec 16 :=
  (((buf₀.setWidth 32 <<< 8) ||| buf₁.setWidth 32) >>> 4).setWidth 16

/-- `*temp_raw = (*temp_raw * 625) / 100`, in `int`, with C's truncating division. -/
def centiDegrees (raw : BitVec 16) : BitVec 16 :=
  ((raw.signExtend 32 * 625).sdiv 100).setWidth 16

/-- `read_temperature`.  In simulation mode `rand` is what `sys_rand32_get()` returns;
otherwise `ret` is what `i2c_burst_read` returns, and `buf₀`, `buf₁` the bytes it reads.  The
result is `*temp_raw` when the function returns 0, and what it returns otherwise. -/
def readTemperature (simulation : Bool) (s : State) (rand : BitVec 32) (ret : Int)
    (buf₀ buf₁ : BitVec 8) : State × Except Int (BitVec 16) :=
  if simulation then
    let s := { s with simTemp := simDrift s.simTemp rand }
    (s, .ok s.simTemp)
  else if ret < 0 then
    (s.log (.err ("Failed to read temperature: ".toList ++ fmtInt 0 ret)), .error ret)
  else (s, .ok (centiDegrees (registerField buf₀ buf₁)))

/-- `%d.%02d` of `temperature / 100` and `abs(temperature % 100)`, `temperature` promoted to
`int`. -/
def temperatureNumeral (temperature : BitVec 16) : List Char :=
  fmtInt 0 (temperature.toInt.tdiv 100) ++ '.' :: fmtInt 2 (temperature.toInt.tmod 100).natAbs

/-- The text of `LOG_INF("Temperature: %d.%02d C", ...)`. -/
def temperatureLine (temperature : BitVec 16) : List Char :=
  "Temperature: ".toList ++ temperatureNumeral temperature ++ " C".toList

/-- One round of `main`'s loop, up to `k_sleep`. -/
def mainRound (simulation : Bool) (s : State) (rand : BitVec 32) (ret : Int)
    (buf₀ buf₁ : BitVec 8) : State :=
  match readTemperature simulation s rand ret buf₀ buf₁ with
  | (s, .ok temperature) => s.log (.inf (temperatureLine temperature))
  | (s, .error ret) => s.log (.err ("Read failed: ".toList ++ fmtInt 0 ret))

/-- `main`'s set-up with what the hardware answers it, or a round of its loop with what the
hardware answers `read_temperature`. -/
inductive Act
  | setup (ready : Bool) (name : List Char) (writeRet : Int) (readRet : Nat → Int)
  | round (rand : BitVec 32) (ret : Int) (buf₀ buf₁ : BitVec 8)

/-- The example, built with `SIMULATION_MODE` set to `simulation`. -/
def program (simulation : Bool) : System State Act where
  init := init
  step s
    | .setup ready name writeRet readRet =>
      if s.main = .start then
        some { mainSetup simulation s ready name writeRet readRet with main := .loop }
      else none
    | .round rand ret buf₀ buf₁ =>
      if s.main = .loop then some (mainRound simulation s rand ret buf₀ buf₁) else none

/-! ## The values read -/

theorem toInt_of_toNat_lt {w : Nat} {x : BitVec (w + 1)} (h : x.toNat < 2 ^ w) :
    x.toInt = x.toNat := by
  rw [BitVec.toInt_eq_toNat_cond, if_pos (by omega)]

/-- Storing the sum back in the `int16_t` keeps its low 16 bits: a round adds
`(sys_rand32_get() % 100) - 50` to `sim_temp` modulo 2¹⁶. -/
theorem simDrift_eq (simTemp : BitVec 16) (rand : BitVec 32) :
    simDrift simTemp rand = simTemp + (rand % 100 - 50).setWidth 16 := by
  have hlow : (simTemp.signExtend 32).setWidth 16 = simTemp := by
    apply BitVec.eq_of_toNat_eq
    have := simTemp.isLt
    rw [BitVec.toNat_setWidth, BitVec.signExtend, BitVec.toNat_ofInt, BitVec.toInt_eq_toNat_cond]
    split <;> omega
  rw [simDrift, BitVec.setWidth_add _ _ (by decide), hlow]

/-- The field is the register's twelve bits, read as an unsigned number. -/
theorem registerField_toNat (buf₀ buf₁ : BitVec 8) :
    (registerField buf₀ buf₁).toNat = (buf₀.toNat * 256 + buf₁.toNat) / 16 := by
  have h₀ := buf₀.isLt
  have h₁ := buf₁.isLt
  have hor : buf₀.toNat * 256 ||| buf₁.toNat = buf₀.toNat * 256 + buf₁.toNat := by
    rw [Nat.mul_comm, show 256 = 2 ^ 8 from rfl, Nat.mul_add_lt_is_or h₁]
  simp only [registerField, BitVec.toNat_setWidth, BitVec.toNat_ushiftRight, BitVec.toNat_or,
    BitVec.toNat_shiftLeft, Nat.shiftLeft_eq, Nat.shiftRight_eq_div_pow]
  rw [Nat.mod_eq_of_lt (a := buf₀.toNat) (by omega), Nat.mod_eq_of_lt (a := buf₁.toNat) (by omega),
    Nat.mod_eq_of_lt (a := buf₀.toNat * 2 ^ 8) (by omega), show (2 : Nat) ^ 8 = 256 from rfl, hor]
  omega

/-- `sdiv` of a non-negative `int` by a positive one is `udiv`. -/
theorem toNat_sdiv_of_lt {x y : BitVec 32} (hx : x.toNat < 2 ^ 31) (hy : y.toNat < 2 ^ 31) :
    (x.sdiv y).toNat = x.toNat / y.toNat := by
  have h₁ : x.msb = false := by rw [BitVec.msb_eq_decide]; simpa using hx
  have h₂ : y.msb = false := by rw [BitVec.msb_eq_decide]; simpa using hy
  rw [BitVec.sdiv_eq, h₁, h₂, BitVec.udiv_eq, BitVec.toNat_udiv]

/-- A field of twelve bits, scaled in `int`, fits the `int16_t` it is stored back in. -/
theorem centiDegrees_toInt {raw : BitVec 16} (h : raw.toNat < 4096) :
    (centiDegrees raw).toInt = (raw.toNat * 625 / 100 : Nat) := by
  have hs : raw.signExtend 32 = BitVec.ofNat 32 raw.toNat := by
    rw [BitVec.signExtend, toInt_of_toNat_lt (by omega)]; rfl
  have hx : (raw.signExtend 32 * 625).toNat = raw.toNat * 625 := by
    rw [hs, BitVec.toNat_mul, BitVec.toNat_ofNat]
    change raw.toNat % 2 ^ 32 * 625 % 2 ^ 32 = _
    omega
  have hq := toNat_sdiv_of_lt (x := raw.signExtend 32 * 625) (y := 100) (by omega) (by decide)
  rw [hx, show (100 : BitVec 32).toNat = 100 from rfl] at hq
  have hb : raw.toNat * 625 / 100 < 2 ^ 15 := by omega
  rw [centiDegrees, toInt_of_toNat_lt] <;>
    rw [BitVec.toNat_setWidth, hq, Nat.mod_eq_of_lt (by omega)]
  exact hb

/-- **What `LOG_INF` prints, read back.**  `%d.%02d` of `temperature / 100` and
`abs(temperature % 100)` reads back as `temperature` hundredths, except on `-99 … -1`, where it
reads as the opposite. -/
theorem temperatureNumeral_value (temperature : BitVec 16) :
    fixedValue 2 (temperatureNumeral temperature) =
      some (if temperature.toInt < 0 ∧ -100 < temperature.toInt then -temperature.toInt
        else temperature.toInt) := by
  rw [temperatureNumeral, fixedValue_fmtInt _ (by decide)
    (natAbs_tmod_lt temperature.toInt (b := 100) (by decide))]
  exact congrArg some (tdiv_tmod_value _ (by decide))

/-! ## What a step prints -/

/-- A line that cannot be taken for a temperature reading: anything but a `LOG_INF` whose text
starts with `T`. -/
def Line.NotReading : Line → Prop
  | .inf text => text.head? ≠ some 'T'
  | _ => True

instance : DecidablePred Line.NotReading
  | .inf text => inferInstanceAs (Decidable (text.head? ≠ some 'T'))
  | .printk _ | .wrn _ | .err _ => inferInstanceAs (Decidable True)

theorem Line.notReading_inf {c : Char} (text : List Char) (h : c ≠ 'T') :
    (Line.inf (c :: text)).NotReading := by
  simpa [Line.NotReading] using h

/-- A `LOG_INF` that starts like a reading, and the numeral it holds if it is one. -/
theorem Line.reading {x : List Char} :
    ¬ (Line.inf ("Temperature: ".toList ++ x ++ " C".toList)).NotReading ∧
      ∀ t, "Temperature: ".toList ++ x ++ " C".toList = temperatureLine t →
        x = temperatureNumeral t := by
  refine ⟨fun h => h rfl, fun t ht => ?_⟩
  exact List.append_cancel_left (List.append_cancel_right ht)

/-- The `LOG_INF` of a temperature. -/
def reading (temperature : BitVec 16) : Line := .inf (temperatureLine temperature)

/-- The lines of a console that can be taken for readings, in order. -/
def readings (out : List Line) : List Line := out.filter fun l => ¬ l.NotReading

theorem readings_append (xs ys : List Line) : readings (xs ++ ys) = readings xs ++ readings ys :=
  List.filter_append _ _

theorem readings_of_notReading {xs : List Line} (h : ∀ l ∈ xs, l.NotReading) : readings xs = [] :=
  List.filter_eq_nil_iff.2 fun l hl => by simpa using h l hl

/-- `t` is `s` with lines logged that cannot be taken for readings. -/
def Quiet (s t : State) : Prop :=
  ∃ extra, t = { s with out := s.out ++ extra } ∧ ∀ l ∈ extra, l.NotReading

theorem Quiet.refl (s : State) : Quiet s s := ⟨[], by rw [List.append_nil], nofun⟩

theorem Quiet.trans {s t u : State} (h₁ : Quiet s t) (h₂ : Quiet t u) : Quiet s u := by
  obtain ⟨e₁, rfl, h₁⟩ := h₁
  obtain ⟨e₂, rfl, h₂⟩ := h₂
  exact ⟨e₁ ++ e₂, by simp only [List.append_assoc],
    fun l hl => (List.mem_append.1 hl).elim (h₁ l) (h₂ l)⟩

theorem Quiet.readings {s t : State} (h : Quiet s t) : readings t.out = readings s.out := by
  obtain ⟨e, rfl, he⟩ := h
  rw [readings_append, readings_of_notReading he, List.append_nil]

theorem quiet_log {s : State} {l : Line} (h : l.NotReading) : Quiet s (s.log l) :=
  ⟨[l], rfl, fun _ hl => List.mem_singleton.1 hl ▸ h⟩

theorem quiet_configureSensor (simulation : Bool) (s : State) (ready : Bool) (name : List Char)
    (writeRet : Int) : Quiet s (configureSensor simulation s ready name writeRet).1 := by
  unfold configureSensor
  split
  · exact quiet_log (by decide)
  split
  · exact quiet_log trivial
  have hname : Quiet s (s.log (.inf ("I2C device: ".toList ++ name))) :=
    quiet_log (Line.notReading_inf _ (by decide))
  dsimp only
  split
  · exact hname.trans (quiet_log trivial)
  · exact hname.trans (quiet_log (by decide))

theorem quiet_scanI2cBus (simulation : Bool) (s : State) (readRet : Nat → Int) :
    Quiet s (scanI2cBus simulation s readRet) := by
  have hscan : ∀ (addrs : List Nat) (s : State),
      Quiet s (addrs.foldl (fun s addr => scanAddr s addr (readRet addr)) s) := by
    intro addrs
    induction addrs with
    | nil => exact Quiet.refl
    | cons addr addrs ih =>
      intro s
      refine Quiet.trans (?_ : Quiet s (scanAddr s addr (readRet addr))) (ih _)
      unfold scanAddr
      split
      · exact quiet_log (Line.notReading_inf _ (by decide))
      · exact Quiet.refl s
  unfold scanI2cBus
  split
  · exact quiet_log (by decide)
  · exact ((quiet_log (by decide)).trans (hscan _ _)).trans (quiet_log (by decide))

theorem quiet_mainSetup (simulation : Bool) (s : State) (ready : Bool) (name : List Char)
    (writeRet : Int) (readRet : Nat → Int) :
    Quiet s (mainSetup simulation s ready name writeRet readRet) := by
  have hbanner : Quiet s ((s.log (.printk "I2C Sensor Example\n".toList)).log
      (.printk "==================\n\n".toList)) :=
    (quiet_log (l := .printk _) trivial).trans (quiet_log trivial)
  unfold mainSetup
  dsimp only
  have hconf := hbanner.trans (quiet_configureSensor simulation _ ready name writeRet)
  generalize configureSensor simulation _ ready name writeRet = c at hconf ⊢
  obtain ⟨s', ret⟩ := c
  refine Quiet.trans (Quiet.trans ?_ (quiet_scanI2cBus simulation _ readRet)) (quiet_log trivial)
  split
  · exact hconf.trans (quiet_log trivial)
  · exact hconf

/-! ## What a step logs -/

theorem step_setup {simulation : Bool} {s t : State} {ready : Bool} {name : List Char}
    {writeRet : Int} {readRet : Nat → Int}
    (h : (program simulation).step s (.setup ready name writeRet readRet) = some t) :
    t = { mainSetup simulation s ready name writeRet readRet with main := .loop } := by
  simp only [program] at h
  split at h <;> simp only [Option.some.injEq, reduceCtorEq] at h
  exact h.symm

theorem step_round {simulation : Bool} {s t : State} {rand : BitVec 32} {ret : Int}
    {buf₀ buf₁ : BitVec 8} (h : (program simulation).step s (.round rand ret buf₀ buf₁) = some t) :
    t = mainRound simulation s rand ret buf₀ buf₁ := by
  simp only [program] at h
  split at h <;> simp only [Option.some.injEq, reduceCtorEq] at h
  exact h.symm

/-- The set-up logs no reading and leaves `sim_temp` alone. -/
theorem step_setup_quiet {simulation : Bool} {s t : State} {ready : Bool} {name : List Char}
    {writeRet : Int} {readRet : Nat → Int}
    (h : (program simulation).step s (.setup ready name writeRet readRet) = some t) :
    readings t.out = readings s.out ∧ t.simTemp = s.simTemp := by
  obtain ⟨e, he, hn⟩ := quiet_mainSetup simulation s ready name writeRet readRet
  rw [step_setup h, he]
  exact ⟨(readings_append _ _).trans (by rw [readings_of_notReading hn, List.append_nil]), rfl⟩

/-! ## Reading the TMP102 -/

/-- The field a round's `i2c_burst_read` gives, if it succeeds. -/
def Act.busField : Act → Option (BitVec 16)
  | .round _ ret buf₀ buf₁ => if 0 ≤ ret then some (registerField buf₀ buf₁) else none
  | .setup .. => none

theorem busField_lt {a : Act} {f : BitVec 16} (h : a.busField = some f) : f.toNat < 4096 := by
  cases a with
  | setup => cases h
  | round rand ret buf₀ buf₁ =>
    simp only [Act.busField, Option.ite_none_right_eq_some, Option.some.injEq] at h
    rw [← h.2, registerField_toNat]
    have := buf₀.isLt
    omega

/-- **A round on the bus.**  It logs lines that cannot be taken for readings, and the reading of
the scaled field when `i2c_burst_read` succeeds. -/
theorem mainRound_hardware (s : State) (rand : BitVec 32) (ret : Int) (buf₀ buf₁ : BitVec 8) :
    readings (mainRound false s rand ret buf₀ buf₁).out =
      readings s.out ++ ((Act.round rand ret buf₀ buf₁).busField.map fun f =>
        reading (centiDegrees f)).toList := by
  by_cases h : 0 ≤ ret
  · have hr : readTemperature false s rand ret buf₀ buf₁ =
        (s, .ok (centiDegrees (registerField buf₀ buf₁))) := by
      simp only [readTemperature, Bool.false_eq_true, ↓reduceIte, not_lt.2 h]
    rw [mainRound, hr, Act.busField, if_pos h]
    exact readings_append _ _
  · have hr : readTemperature false s rand ret buf₀ buf₁ =
        (s.log (.err ("Failed to read temperature: ".toList ++ fmtInt 0 ret)), .error ret) := by
      simp only [readTemperature, Bool.false_eq_true, ↓reduceIte, lt_of_not_le h]
    rw [mainRound, hr, Act.busField, if_neg h, Option.map_none', Option.toList_none, List.append_nil]
    exact ((quiet_log (l := .err _) trivial).trans (quiet_log (l := .err _) trivial)).readings

/-- On the bus, a run logs as readings the scaled fields of its rounds whose `i2c_burst_read`
succeeds, in order. -/
theorem run_readings_hardware {s t : State} {as : List Act} (h : (program false).run s as = some t) :
    readings t.out = readings s.out ++ (as.filterMap Act.busField).map fun f => reading (centiDegrees f) := by
  induction as generalizing s with
  | nil => cases h; rw [List.filterMap_nil, List.map_nil, List.append_nil]
  | cons a as ih =>
    obtain ⟨u, hu, h⟩ := Option.bind_eq_some.mp h
    have hstep : readings u.out = readings s.out ++ (a.busField.map fun f => reading (centiDegrees f)).toList := by
      cases a with
      | setup => rw [(step_setup_quiet hu).1]; exact (List.append_nil _).symm
      | round rand ret buf₀ buf₁ => rw [step_round hu, mainRound_hardware]
    rw [ih h, hstep, List.append_assoc, List.filterMap_cons]
    cases a.busField <;> rfl

/-- The reading of a field of twelve bits reads back as `⌊field · 6.25⌋` hundredths. -/
theorem fixedValue_centiDegrees {f : BitVec 16} (h : f.toNat < 4096) :
    fixedValue 2 (temperatureNumeral (centiDegrees f)) = some ((f.toNat * 625 / 100 : Nat) : Int) := by
  rw [temperatureNumeral_value, centiDegrees_toInt h, if_neg (by omega)]

/-- **A TMP102 reading is logged as unsigned.**  Built for the bus, a run logs as readings, in
order, the field `((buf[0] << 8) | buf[1]) >> 4` of each round whose `i2c_burst_read` succeeds,
scaled; and nothing else.  The field is read as unsigned, in `0 … 4095`, and its reading is
`⌊field · 6.25⌋` hundredths, so what is logged lies in 0.00 … 255.93 °C; a field is logged as
128.00 °C or more exactly when it is 2048 or more, that is, when the TMP102's two's complement
gives a temperature below 0 °C. -/
theorem hardware_reading_unsigned (as : List Act) (s : State)
    (hrun : (program false).run init as = some s) :
    readings s.out = (as.filterMap Act.busField).map (fun f => reading (centiDegrees f)) ∧
      ∀ f ∈ as.filterMap Act.busField, f.toNat < 4096 ∧
        fixedValue 2 (temperatureNumeral (centiDegrees f)) = some ((f.toNat * 625 / 100 : Nat) : Int) ∧
        (2048 ≤ f.toNat ↔ 12800 ≤ f.toNat * 625 / 100) := by
  refine ⟨(run_readings_hardware hrun).trans (List.nil_append _), fun f hf => ?_⟩
  obtain ⟨a, -, ha⟩ := List.mem_filterMap.1 hf
  have hlt := busField_lt ha
  exact ⟨hlt, fixedValue_centiDegrees hlt, by omega⟩

/-- The TMP102 reading `0xFFF0`, -0.0625 °C, is the field 4095, logged as 255.93 °C. -/
theorem hardware_reading_below_zero :
    ∃ s, (program false).run init
        [.setup true "i2c0".toList 0 (fun _ => -5), .round 0 0 0xFF 0xF0] = some s ∧
      readings s.out = [reading (centiDegrees 4095)] ∧
      reading (centiDegrees 4095) = .inf "Temperature: 255.93 C".toList ∧
      fixedValue 2 (temperatureNumeral (centiDegrees 4095)) = some 25593 ∧ 12800 ≤ 25593 := by
  have hrun : (program false).run init
      [.setup true "i2c0".toList 0 (fun _ => -5), .round 0 0 0xFF 0xF0] = some _ := rfl
  have h := hardware_reading_unsigned _ _ hrun
  have hf := h.2 4095 (by decide)
  exact ⟨_, hrun, h.1.trans (by decide), by decide, hf.2.1, hf.2.2.1 (by decide)⟩

/-- **No sensor, no simulation.**  When `i2c_write` of the configuration fails, the program logs
that it is using simulation and continuing with simulated readings, but `SIMULATION_MODE` is
fixed and the loop goes on reading the bus: in a run in which every `i2c_burst_read` fails, no
temperature is ever logged. -/
theorem failed_reads_log_no_temperature (as : List Act) (s : State)
    (hrun : (program false).run init as = some s)
    (hfail : ∀ rand ret buf₀ buf₁, Act.round rand ret buf₀ buf₁ ∈ as → ret < 0) (x : List Char) :
    Line.inf ("Temperature: ".toList ++ x ++ " C".toList) ∉ s.out := fun hx => by
  have hnone : as.filterMap Act.busField = [] := List.filterMap_eq_nil_iff.2 fun a ha => by
    cases a with
    | setup => rfl
    | round rand ret buf₀ buf₁ => exact if_neg (not_le.2 (hfail rand ret buf₀ buf₁ ha))
  have h : readings s.out = [] := (run_readings_hardware hrun).trans (by rw [hnone]; rfl)
  have hm : Line.inf ("Temperature: ".toList ++ x ++ " C".toList) ∈ readings s.out :=
    List.mem_filter.2 ⟨hx, decide_eq_true Line.reading.1⟩
  rw [h] at hm
  exact List.not_mem_nil _ hm

/-- With no sensor on the bus, the program announces simulated readings and logs none. -/
theorem failed_reads_announced :
    ∃ s, (program false).run init [.setup true "i2c0".toList (-5) (fun _ => -5), .round 0 (-5) 0 0] =
        some s ∧
      Line.wrn "Continuing with simulated readings".toList ∈ s.out ∧
      Line.err "Read failed: -5".toList ∈ s.out ∧
      Line.inf ("Temperature: ".toList ++ "25.00".toList ++ " C".toList) ∉ s.out := by
  have hrun : (program false).run init
      [.setup true "i2c0".toList (-5) (fun _ => -5), .round 0 (-5) 0 0] = some _ := rfl
  refine ⟨_, hrun, by decide, by decide, failed_reads_log_no_temperature _ _ hrun ?_ _⟩
  intro rand ret buf₀ buf₁ h
  simp only [List.mem_cons, reduceCtorEq, Act.round.injEq, List.not_mem_nil, false_or,
    or_false] at h
  obtain ⟨-, rfl, -⟩ := h
  decide

/-! ## The simulated walk -/

/-- Rounds with `sys_rand32_get()` returning 51 add one each, modulo 2¹⁶. -/
theorem foldl_simDrift_replicate (k : Nat) (v : BitVec 16) :
    (List.replicate k 51).foldl simDrift v = v + BitVec.ofNat 16 k := by
  induction k generalizing v with
  | zero => simp
  | succ k ih =>
    rw [List.replicate_succ, List.foldl_cons, ih, simDrift_eq,
      show ((51 : BitVec 32) % 100 - 50).setWidth 16 = 1 by decide]
    bv_omega

/-- Once `main` is in its loop, simulated rounds with `sys_rand32_get()` returning `rands` drift
`sim_temp` by each in turn. -/
theorem run_rounds {s : State} (h : s.main = .loop) (rands : List (BitVec 32)) :
    ∃ t, (program true).run s (rands.map (.round · 0 0 0)) = some t ∧ t.main = .loop ∧
      t.simTemp = rands.foldl simDrift s.simTemp := by
  induction rands generalizing s with
  | nil => exact ⟨s, rfl, h, rfl⟩
  | cons r rs ih =>
    obtain ⟨t, ht, hm, hv⟩ := ih (s := mainRound true s r 0 0 0) h
    refine ⟨t, ?_, hm, hv⟩
    simp only [List.map_cons, System.run, program, h, if_true, Option.some_bind]
    exact ht

/-- In simulation mode every `int16_t` is logged: after the set-up, rounds in which
`sys_rand32_get()` returns 51 add one to `sim_temp`, and a round in which it returns 50 logs it
unchanged. -/
theorem simulated_reading_reaches (v : BitVec 16) :
    ∃ s, (program true).Reachable s ∧ Line.inf (temperatureLine v) ∈ s.out := by
  let s₁ : State := { mainSetup true init true [] 0 (fun _ => 0) with main := .loop }
  let rounds := (List.replicate (v - 2500).toNat 51).map (Act.round · 0 0 0)
  obtain ⟨t, ht, hm, hv⟩ := run_rounds (s := s₁) rfl (List.replicate (v - 2500).toNat 51)
  have hrun : (program true).run s₁ (rounds ++ [.round 50 0 0 0]) =
      some (mainRound true t 50 0 0 0) := by
    rw [System.run_append, ht, Option.some_bind]
    simp only [System.run, program, hm, if_true, Option.some_bind]
  have hsetup : (program true).run init
      (.setup true [] 0 (fun _ => 0) :: (rounds ++ [.round 50 0 0 0])) =
        some (mainRound true t 50 0 0 0) := hrun
  refine ⟨_, System.reachable_of_run hsetup, ?_⟩
  have hlast : simDrift t.simTemp 50 = v := by
    rw [simDrift_eq, show ((50 : BitVec 32) % 100 - 50).setWidth 16 = 0 by decide, hv,
      foldl_simDrift_replicate, BitVec.ofNat_toNat, BitVec.setWidth_eq]
    show 2500 + (v - 2500) + 0 = v
    bv_omega
  show Line.inf (temperatureLine v) ∈ t.out ++ [.inf (temperatureLine (simDrift t.simTemp 50))]
  rw [hlast]
  exact List.mem_append_right _ (List.mem_singleton_self _)

/-- What `sys_rand32_get()` returns in a round. -/
def Act.sysRand : Act → Option (BitVec 32)
  | .round rand .. => some rand
  | .setup .. => none

/-- The values `sim_temp` takes, round after round, from `simTemp`. -/
def simWalk (simTemp : BitVec 16) : List (BitVec 32) → List (BitVec 16)
  | [] => []
  | rand :: rands => simDrift simTemp rand :: simWalk (simDrift simTemp rand) rands

/-- A simulated step logs the value it drifts `sim_temp` to, if it is a round. -/
theorem step_readings_simulation {s t : State} {a : Act} (h : (program true).step s a = some t) :
    readings t.out = readings s.out ++ (a.sysRand.map fun r => reading (simDrift s.simTemp r)).toList ∧
      t.simTemp = a.sysRand.elim s.simTemp (simDrift s.simTemp) := by
  cases a with
  | setup =>
    obtain ⟨hr, hv⟩ := step_setup_quiet h
    exact ⟨hr.trans (List.append_nil _).symm, hv⟩
  | round rand ret buf₀ buf₁ =>
    rw [step_round h]
    exact ⟨readings_append _ _, rfl⟩

/-- In simulation mode a run logs as readings the values `sim_temp` takes, one per round. -/
theorem run_readings_simulation {s t : State} {as : List Act} (h : (program true).run s as = some t) :
    readings t.out = readings s.out ++ (simWalk s.simTemp (as.filterMap Act.sysRand)).map reading := by
  induction as generalizing s with
  | nil => cases h; rw [List.filterMap_nil, simWalk, List.map_nil, List.append_nil]
  | cons a as ih =>
    obtain ⟨u, hu, h⟩ := Option.bind_eq_some.mp h
    obtain ⟨hr, hv⟩ := step_readings_simulation hu
    rw [ih h, hr, hv, List.append_assoc, List.filterMap_cons]
    cases a.sysRand <;> rfl

/-- **What simulation mode logs.**  A run logs as readings, one per round and in order, the
values `sim_temp` takes from 2500, each round adding `(sys_rand32_get() % 100) - 50` modulo 2¹⁶
(`simDrift_eq`); every `int16_t` temperature is logged in some run; and the numeral logged
reads back as the temperature, in hundredths, except on `-99 … -1`: there `temperature / 100` is
0 and `abs(temperature % 100)` has lost the sign, so -0.50 °C is logged as `0.50`. -/
theorem simulated_reading_value :
    (∀ as s, (program true).run init as = some s →
      readings s.out = (simWalk 2500 (as.filterMap Act.sysRand)).map reading) ∧
    (∀ v : BitVec 16, ∃ s, (program true).Reachable s ∧ reading v ∈ s.out) ∧
    ∀ v : BitVec 16, fixedValue 2 (temperatureNumeral v) =
      some (if v.toInt < 0 ∧ -100 < v.toInt then -v.toInt else v.toInt) :=
  ⟨fun _ _ h => (run_readings_simulation h).trans (List.nil_append _), simulated_reading_reaches,
    temperatureNumeral_value⟩

end I2c
end ZephyrGuide
