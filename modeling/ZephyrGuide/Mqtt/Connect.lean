import ZephyrGuide.Mqtt.Model

/-!
# The connection is never established

`connected` becomes true only in the CONNACK branch of `mqtt_evt_handler`, the handler runs only
inside `mqtt_input`, and `mqtt_input_thread` calls `mqtt_input` only once `connected` is true.
So the loop of the input thread never gets past its first test, the CONNACK is never read, and
`main`'s `k_sem_take` can only time out: every run that gets through `mqtt_connect` ends with
`main` returning `-ETIMEDOUT`, and the client sends nothing but its CONNECT (`Inv`).

In particular no SUBSCRIBE or PUBLISH is ever sent.  Were one sent, its packet identifier would
be `sys_rand32_get() & 0xFFFF` and nothing more (`message_id_unchecked`): 0 for every multiple of
2¹⁶, and equal to the identifier of a packet still in flight whenever the low bits repeat, though
MQTT requires a non-zero identifier that no unacknowledged packet holds (`FreshIds`).
-/

set_option autoImplicit false

namespace ZephyrGuide
namespace Mqtt

/-- What holds in every reachable state. -/
structure Inv (s : State) : Prop where
  connected : s.connected = false
  input : s.input = .top
  io : s.io = [] ∨ s.io = [.send .connect]
  start : s.main = .start → s.io = []
  main : s.main ≠ .subscribe ∧ s.main ≠ .loop ∧ s.main ≠ .done 0

theorem inv_init : Inv init := ⟨rfl, rfl, .inl rfl, fun _ => rfl, by simp [init]⟩

theorem inv_mainStep {s t : State} {ret : Int} {r₁ r₂ : BitVec 32} (h : Inv s)
    (hs : mainStep s ret r₁ r₂ = some t) : Inv t := by
  obtain ⟨hc, hi, ho, hst, hm⟩ := h
  unfold mainStep at hs
  split at hs
  · rename_i hmain
    split at hs <;> simp only [Option.some.injEq] at hs <;> subst hs
    · exact ⟨hc, hi, ho, nofun, by simpa⟩
    · exact ⟨hc, hi, .inr (by simp [hst hmain]), nofun, by simp⟩
  · simp only [Option.some.injEq] at hs
    subst hs
    exact ⟨hc, hi, ho, by split <;> simp, by split <;> simp⟩
  · simp only [hc, Bool.false_eq_true, if_false, Option.some.injEq] at hs
    subst hs
    exact ⟨rfl, hi, ho, nofun, by simp [ETIMEDOUT]⟩
  · exact absurd ‹s.main = .subscribe› hm.1
  · exact absurd ‹s.main = .loop› hm.2.1
  all_goals simp at hs

theorem inv_holds : program.Invariant Inv where
  init := inv_init
  step a h hs := by
    obtain ⟨hc, hi, ho, hst, hm⟩ := h
    cases a with
    | main ret r₁ r₂ => exact inv_mainStep ⟨hc, hi, ho, hst, hm⟩ hs
    | input ping =>
      have hs : mqttInputThread _ ping = some _ := hs
      simp only [mqttInputThread, hi, hc, Bool.false_eq_true, if_false, Option.some.injEq] at hs
      subst hs
      exact ⟨rfl, rfl, ho, hst, hm⟩
    | timeout =>
      have hs : timeoutStep _ = some _ := hs
      unfold timeoutStep at hs
      split at hs <;> simp only [Option.some.injEq, reduceCtorEq] at hs
      subst hs
      exact ⟨hc, hi, ho, nofun, by simp⟩
    | broker e =>
      have hs : some _ = some _ := hs
      simp only [Option.some.injEq] at hs
      subst hs
      exact ⟨hc, hi, ho, hst, hm⟩

/-- **The client never connects.**  In every reachable state `connected` is false, the input
thread is at the top of its loop, the client has sent at most its CONNECT, and `main` has
neither reached `mqtt_subscribe_control` nor returned 0. -/
theorem never_connected :
    ∀ s, program.Reachable s → s.connected = false ∧ s.input = .top ∧
      (s.io = [] ∨ s.io = [.send .connect]) ∧
      s.main ≠ .subscribe ∧ s.main ≠ .loop ∧ s.main ≠ .done 0 :=
  fun _ hs => have h := inv_holds.holds hs; ⟨h.connected, h.input, h.io, h.main⟩

/-- With a CONNACK on the socket and the input thread run, `connected` is still false. -/
theorem never_connected_with_connack :
    ∃ s, program.Reachable s ∧ s.socket = [.connack 0] ∧ s.connected = false := by
  obtain ⟨s, hs, h⟩ := program.exists_reachable_of_run
    [.main 0 0 0, .broker (.connack 0), .input false]
    (fun s => s.socket == [.connack 0]) (by decide)
  exact ⟨s, hs, by simpa using h, (never_connected s hs).1⟩

/-- **The CONNACK is never read.**  `mqtt_connect` succeeds and the broker's CONNACK with result 0
is on the socket before `main` waits; the input thread runs during the wait, and finds
`connected` false each time; the 10 s run out, and `main` returns `-ETIMEDOUT` with the CONNACK
still unread. -/
theorem connack_left_unread :
    ∃ s, program.Reachable s ∧ s.io = [.send .connect] ∧ s.socket = [.connack 0] ∧
      s.connected = false ∧ s.main = .done (-ETIMEDOUT) := by
  obtain ⟨s, hs, h⟩ := program.exists_reachable_of_run
    [.main 0 0 0, .broker (.connack 0), .main 0 0 0, .input false, .input false, .timeout,
      .main 0 0 0]
    (fun s => s.io == [.send .connect] && s.socket == [.connack 0] && !s.connected &&
      s.main == .done (-ETIMEDOUT))
    (by decide)
  simp only [Bool.and_eq_true, beq_iff_eq, Bool.not_eq_true'] at h
  exact ⟨s, hs, h.1.1.1, h.1.1.2, h.1.2, h.2⟩

/-! ## Packet identifiers -/

/-- The identifier a packet holds until it is acknowledged: that of a SUBSCRIBE or of a QoS-1
PUBLISH. -/
def Packet.pendingId : Packet → Option Nat
  | .subscribe messageId _ _ => some messageId
  | .publish messageId _ _ _ qos => if qos = MQTT_QOS_1_AT_LEAST_ONCE then some messageId else none
  | _ => none

/-- The identifier a PUBACK or SUBACK acknowledges. -/
def Evt.ackId : Evt → Option Nat
  | .puback messageId | .suback messageId => some messageId
  | _ => none

/-- One entry of the trace on the identifiers in flight. -/
def inFlightStep (ids : List Nat) : Io → List Nat
  | .send p => match p.pendingId with
    | some i => ids ++ [i]
    | none => ids
  | .recv e => match e.ackId with
    | some i => ids.erase i
    | none => ids

/-- The identifiers in flight after a trace: held and not yet acknowledged. -/
def inFlight (tr : List Io) : List Nat := tr.foldl inFlightStep []

/-- Every identifier a packet of the trace holds is non-zero and not in flight when it is sent. -/
def FreshIds (tr : List Io) : Prop :=
  ∀ pre p post i, tr = pre ++ .send p :: post → p.pendingId = some i → i ≠ 0 ∧ i ∉ inFlight pre

/-- `r & 0xFFFF` keeps the low 16 bits of `r`. -/
theorem mask_toNat (r : BitVec 32) : (r &&& 0xFFFF).toNat = r.toNat % 2 ^ 16 := by
  rw [BitVec.toNat_and, show (0xFFFF : BitVec 32).toNat = 2 ^ 16 - 1 from rfl,
    Nat.and_pow_two_sub_one_eq_mod]

/-- **Packet identifiers are not checked.**  The SUBSCRIBE of `mqtt_subscribe_control` and the
QoS-1 PUBLISH of `mqtt_publish_sensor` hold `sys_rand32_get() & 0xFFFF` as their identifier,
whatever it is: with `0x10000` the SUBSCRIBE holds 0, and with 7 and then `0x10007` the PUBLISH
reuses the identifier of the SUBSCRIBE still in flight. -/
theorem message_id_unchecked :
    (∀ r, (mqttSubscribeControl r).pendingId = some (r.toNat % 2 ^ 16)) ∧
    (∀ temperature r, (mqttPublishSensor temperature r).pendingId = some (r.toNat % 2 ^ 16)) ∧
    ¬ FreshIds [.send .connect, .send (mqttSubscribeControl 0x10000)] ∧
    ¬ FreshIds [.send .connect, .send (mqttSubscribeControl 7),
      .send (mqttPublishSensor 2500 0x10007)] := by
  refine ⟨fun r => by rw [mqttSubscribeControl, Packet.pendingId, mask_toNat],
    fun _ r => by simp only [mqttPublishSensor, Packet.pendingId, ↓reduceIte, mask_toNat],
    fun h => ?_, fun h => ?_⟩
  · exact (h [.send .connect] _ [] 0 rfl rfl).1 rfl
  · exact (h [.send .connect, .send (mqttSubscribeControl 7)] _ [] 7 rfl rfl).2 (by decide)

end Mqtt
end ZephyrGuide
