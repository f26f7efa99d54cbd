import ZephyrGuide.Kernel.System
import ZephyrGuide.Kernel.Sem
import ZephyrGuide.Kernel.RingBuf

/-!
# The UART example: an interrupt handler feeding a thread

`examples/part5/uart/src/main.c`.  The receive interrupt's callback `uart_cb` reads up to 64
bytes from the UART FIFO, stores them in `rx_ring_buf` (256 bytes), adds their number to
`rx_count` and gives `rx_sem` (`K_SEM_DEFINE(rx_sem, 0, 1)`).  `uart_thread_entry` takes
`rx_sem`, then gets the ring's bytes one at a time until it is empty: each is echoed, and fed to
a line editor over `cmd_buf[64]` whose lines go to `handle_command`.

The callback is a process of its own, interleaved with the thread step by step.  A round of its
`while` loop is three steps: the read and `ring_buf_put` (`uartCbRead`, with the bytes the FIFO
delivers as the action's argument), the `rx_count` update, and the `k_sem_give` (`uartCb`).  The
thread's steps are its `k_sem_take`, and one `ring_buf_get` with everything done for the byte
got (`processByte`).  `main` enables the interrupt and prints the first prompt, then loops on
its status line.

`uart_dev` is the console's UART (`DT_CHOSEN(zephyr_console)`), so the bytes sent with
`uart_poll_out` and `uart_send` and the text of `main`'s status `printk` all go out on the one
line, kept in order in `tx`; only `uart_send` and the echo add to `tx_count`.  The banner
`printk`s before the first prompt, which name the console device, are not modelled: they end
with a newline, and nothing is sent before them.  `main`'s `device_is_ready` test is taken to
pass.  The state also records, as a ghost, every call of `handle_command` with its arguments
(`commands`).
-/

set_option autoImplicit false

namespace ZephyrGuide
namespace Uart

/-- `#define RX_RING_BUF_SIZE 256`. -/
def RX_RING_BUF_SIZE : Nat := 256

/-- The bytes of an ASCII string literal. -/
def ascii (str : String) : List UInt8 := str.toList.map fun c => c.toNat.toUInt8

/-- The one thread that waits on `rx_sem`. -/
inductive Tid
  | uartThread
  deriving DecidableEq, Repr

/-- Where `uart_cb` is in a round of its loop: outside one, or past the `ring_buf_put` of `len`
bytes, or past the `rx_count` update too. -/
inductive IsrPc
  | idle
  | count (len : Nat)
  | give
  deriving DecidableEq, Repr

/-- Where `uart_thread_entry` is: at its `k_sem_take`, blocked in it, or in the inner loop at
the next `ring_buf_get`. -/
inductive ThreadPc
  | take
  | waitTake
  | get
  deriving DecidableEq, Repr

/-- `k_sem_take` has returned, on a give. -/
def ThreadPc.wake : ThreadPc → ThreadPc
  | .waitTake => .get
  | pc => pc

/-- Where `main` is: before its setup, or in its status loop. -/
inductive MainPc
  | start
  | loop
  deriving DecidableEq, Repr

/-- The globals, the statics of `uart_thread_entry`, the three positions, and the output. -/
structure State where
  rxRingBuf : RingBuf
  rxSem : KSem Tid
  rxCount : UInt32
  txCount : UInt32
  /-- `static char cmd_buf[64]`. -/
  cmdBuf : List UInt8
  /-- `static size_t cmd_pos`. -/
  cmdPos : Nat
  isr : IsrPc
  thread : ThreadPc
  main : MainPc
  /-- `uart_irq_rx_enable` has been called. -/
  rxEnabled : Bool
  /-- Every byte sent on the console's UART, in order. -/
  tx : List UInt8
  /-- Ghost: the arguments `(cmd, len)` of every call of `handle_command`, in order. -/
  commands : List (List UInt8 × Nat)

/-- The statics as the program defines them; the thread at its first `k_sem_take`. -/
def init : State where
  rxRingBuf := RingBuf.declare RX_RING_BUF_SIZE
  rxSem := KSem.define 0 1 (by decide)
  rxCount := 0
  txCount := 0
  cmdBuf := List.replicate 64 0
  cmdPos := 0
  isr := .idle
  thread := .take
  main := .start
  rxEnabled := false
  tx := []
  commands := []

/-! ## Output -/

/-- `uart_send(str)`: every byte out, then `tx_count += len`. -/
def State.uartSend (s : State) (str : List UInt8) : State :=
  { s with tx := s.tx ++ str, txCount := s.txCount + str.length.toUInt32 }

/-- `uart_println(str)`. -/
def State.uartPrintln (s : State) (str : List UInt8) : State :=
  (s.uartSend str).uartSend (ascii "\r\n")

/-- `printk(str)` on the console: the bytes go out on the same UART, and `tx_count` is not
touched. -/
def State.printk (s : State) (str : List UInt8) : State := { s with tx := s.tx ++ str }

/-- The text of `printk("[Status] RX: %u, TX: %u bytes\n", rx_count, tx_count)`. -/
def statusLine (rxCount txCount : UInt32) : List UInt8 :=
  ascii ("[Status] RX: " ++ Nat.repr rxCount.toNat ++ ", TX: " ++ Nat.repr txCount.toNat ++
    " bytes") ++ ascii "\n"

/-- `snprintf(buf, size, "<text>%u", v)`: at most `size - 1` characters are written. -/
def snprintfU (size : Nat) (text : String) (v : UInt32) : List UInt8 :=
  (ascii (text ++ Nat.repr v.toNat)).take (size - 1)

/-- `strncmp(a, b, n) == 0`, each string read as its bytes followed by NULs. -/
def strncmpEq (a b : List UInt8) : Nat → Bool
  | 0 => true
  | n + 1 => a.headD 0 == b.headD 0 && (a.headD 0 == 0 || strncmpEq a.tail b.tail n)

/-- `handle_command(cmd, len)`. -/
def State.handleCommand (s : State) (cmd : List UInt8) (len : Nat) : State :=
  if 4 ≤ len ∧ strncmpEq cmd (ascii "help") 4 then
    (((((s.uartPrintln []).uartPrintln (ascii "Available commands:")).uartPrintln
      (ascii "  help  - Show this help")).uartPrintln (ascii "  stats - Show statistics")).uartPrintln
      (ascii "  clear - Clear statistics")).uartPrintln (ascii "  hello - Greeting")
  else if 5 ≤ len ∧ strncmpEq cmd (ascii "stats") 5 then
    let s := s.uartPrintln []
    let s := s.uartPrintln (snprintfU 64 "RX bytes: " s.rxCount)
    s.uartPrintln (snprintfU 64 "TX bytes: " s.txCount)
  else if 5 ≤ len ∧ strncmpEq cmd (ascii "clear") 5 then
    ({ s with rxCount := 0, txCount := 0 }.uartPrintln []).uartPrintln (ascii "Statistics cleared")
  else if 5 ≤ len ∧ strncmpEq cmd (ascii "hello") 5 then
    (s.uartPrintln []).uartPrintln (ascii "Hello from Zephyr UART!")
  else s

/-- The call `handle_command(cmd, len)`, recorded in the ghost `commands` with the arguments it
is made with. -/
def State.callHandleCommand (s : State) (cmd : List UInt8) (len : Nat) : State :=
  { s with commands := s.commands ++ [(cmd, len)] }.handleCommand cmd len

/-- The body of `uart_thread_entry`'s inner loop for the byte `c` just got: the echo, then the
line editor.  A CR or LF ends the line (`handle_command` sees it if it is not empty) and prints a
new prompt; 0x7F and 0x08 delete the last character and erase it on the terminal (`"\b \b"`);
any other byte is kept if there is room for it. -/
def State.processByte (s : State) (c : UInt8) : State :=
  let s := { s with tx := s.tx ++ [c], txCount := s.txCount + 1 }
  if c = 13 ∨ c = 10 then
    (if 0 < s.cmdPos then
      { (s.uartSend (ascii "\r\n")).callHandleCommand s.cmdBuf s.cmdPos with cmdPos := 0 }
    else s).uartSend (ascii "> ")
  else if c = 0x7F ∨ c = 0x08 then
    if 0 < s.cmdPos then { s with cmdPos := s.cmdPos - 1 }.uartSend [8, 32, 8] else s
  else if s.cmdPos < 64 - 1 then
    { s with cmdBuf := s.cmdBuf.set s.cmdPos c, cmdPos := s.cmdPos + 1 }
  else s

/-! ## The three processes -/

/-- Make the thread ready if a give woke it. -/
def State.wake (s : State) : Option Tid → State
  | none => s
  | some .uartThread => { s with thread := s.thread.wake }

@[simp] theorem wake_rxSem (s : State) (w : Option Tid) : (s.wake w).rxSem = s.rxSem := by
  rcases w with _ | _ <;> rfl
@[simp] theorem wake_rxRingBuf (s : State) (w : Option Tid) :
    (s.wake w).rxRingBuf = s.rxRingBuf := by
  rcases w with _ | _ <;> rfl
@[simp] theorem wake_isr (s : State) (w : Option Tid) : (s.wake w).isr = s.isr := by
  rcases w with _ | _ <;> rfl

/-- One step of `uart_thread_entry`. -/
def uartThreadEntry (s : State) : Option State :=
  match s.thread with
  | .take =>
    some { s with rxSem := (s.rxSem.take .uartThread).1,
                  thread := if (s.rxSem.take .uartThread).2 then .get else .waitTake }
  | .get =>
    match s.rxRingBuf.getByte.2 with
    | some c => some ({ s with rxRingBuf := s.rxRingBuf.getByte.1 }.processByte c)
    | none => some { s with thread := .take }
  | .waitTake => none

/-- `uart_cb` begins a round: `uart_fifo_read` delivers `data` (1 to 64 bytes) and
`ring_buf_put` stores what fits. -/
def uartCbRead (s : State) (data : List UInt8) : Option State :=
  if s.rxEnabled ∧ s.isr = .idle ∧ 0 < data.length ∧ data.length ≤ 64 then
    some { s with rxRingBuf := s.rxRingBuf.put data, isr := .count data.length }
  else none

/-- The rest of a round of `uart_cb`: `rx_count += len`, then `k_sem_give(&rx_sem)`. -/
def uartCb (s : State) : Option State :=
  match s.isr with
  | .count len => some { s with rxCount := s.rxCount + len.toUInt32, isr := .give }
  | .give => some (State.wake { s with rxSem := s.rxSem.give.1, isr := .idle } s.rxSem.give.2)
  | .idle => none

/-- One step of `main`: the setup and first prompt, then a status line per 30 s. -/
def mainStep (s : State) : Option State :=
  match s.main with
  | .start => some ({ s with rxEnabled := true, main := .loop }.uartSend (ascii "> "))
  | .loop => some (s.printk (statusLine s.rxCount s.txCount))

/-- Who moves next: the UART with the bytes it delivers, the interrupt handler, or a thread. -/
inductive Act
  | rx (data : List UInt8)
  | isr
  | thread
  | main
  deriving DecidableEq, Repr

/-- The example as a system: every interleaving of the interrupt handler and the threads. -/
def program : System State Act where
  init := init
  step s
    | .rx data => uartCbRead s data
    | .isr => uartCb s
    | .thread => uartThreadEntry s
    | .main => mainStep s

end Uart
end ZephyrGuide
