import ZephyrGuide.Kernel.System
import ZephyrGuide.Libc.Printf

/-!
# The TCP client example

`docs/examples/part6/tcp-client/src/main.c`.  `main` waits for the network, then loops for ever:
`connect_to_server` opens a socket and connects it, `echo_test` sends a greeting and prints the
reply, and the socket is closed.  One round of the loop is one step: the program is a single
thread, and what it does in a round depends only on what the network stack answers its calls.

* **No socket is leaked, used after it is closed, or closed twice**
  (`sockets_closed_each_round`).  Every path through a round that opens a socket closes it once
  — the failed `inet_pton`, the failed `connect`, and the end of the round — and no call is made
  on a descriptor that is not open.  This rests on `errno` being positive after a failed call:
  `connect_to_server` returns `-errno`, and a zero would make `main` take it for a socket.
* `inet_pton` accepts `SERVER_ADDR`, so the "Invalid server address" path is never taken
  (`inetPton_SERVER_ADDR`).
* `http_get`, which nothing calls, formats its request with `snprintf` into `buf[256]` and sends
  as many bytes as `snprintf` returns: the whole text only when the path has at most 198
  characters; for a longer path the text is cut short, and from 200 characters on `send` is told
  to read past the end of `buf` (`httpGet_send_length`).

The network stack is a contract on the answers of each round (`Answers.Valid`): `socket()` gives
a descriptor that is not open, a failing call sets a positive `errno`, `send` takes at most the
bytes it is given, and `recv` returns at most the bytes asked for.  `close` is taken not to change
`errno`, so `connect_to_server` returns the `errno` of `connect`.  `k_sleep`, `net_dhcpv4_start`
and `setsockopt`'s timeout (which only bounds how long `recv` waits) are not modelled, beyond the
check that `setsockopt` is made on an open socket.
-/

set_option autoImplicit false

namespace ZephyrGuide
namespace Tcp

open Libc

/-- `SERVER_ADDR`. -/
def SERVER_ADDR : List Char := "192.168.1.100".toList

/-- `SERVER_PORT`. -/
def SERVER_PORT : Int := 8080

/-- `RECV_BUF_SIZE`. -/
def RECV_BUF_SIZE : Nat := 256

/-- `ENODEV`, in Zephyr's numbering. -/
def ENODEV : Int := 19

/-- `EINVAL`, in Zephyr's numbering. -/
def EINVAL : Int := 22

/-! ## `inet_pton` -/

/-- One `ddd` of a dotted-decimal address: one to three decimal digits, at most 255. -/
def octet (ds : List Char) : Option Nat :=
  if 1 ≤ ds.length ∧ ds.length ≤ 3 then
    (digitsValue ds).bind fun v => if v ≤ 255 then some v else none
  else none

/-- `inet_pton(AF_INET, src, &addr)`: the four numbers of `ddd.ddd.ddd.ddd`, or `none` where it
returns 0. -/
def inetPton (src : List Char) : Option (List Nat) :=
  match src.splitOn '.' with
  | [a, b, c, d] => [a, b, c, d].mapM octet
  | _ => none

theorem inetPton_SERVER_ADDR : inetPton SERVER_ADDR = some [192, 168, 1, 100] := by decide

/-! ## The program -/

/-- Where `main` is: before `wait_for_network`, in its loop, or returned with its value. -/
inductive Pc
  | start
  | loop
  | returned (ret : Int)
  deriving DecidableEq, Repr

/-- The kernel's socket descriptors, `main`'s counter and position, and the console. -/
structure State where
  /-- The descriptors of the sockets open. -/
  fds : List Int
  /-- Calls made on a descriptor that is not open, each failing with `EBADF`. -/
  ebadf : Nat
  /-- `int count` of `main`. -/
  count : BitVec 32
  main : Pc
  /-- The text of each `printk`, in order. -/
  out : List (List Char)
  deriving DecidableEq, Repr

def init : State where
  fds := []
  ebadf := 0
  count := 0
  main := .start
  out := []

/-- `printk` of the text formatted. -/
def State.print (s : State) (text : List Char) : State := { s with out := s.out ++ [text] }

/-- A call on `fd` other than `close`: the kernel refuses it with `EBADF` if `fd` is not open. -/
def State.use (s : State) (fd : Int) : State :=
  if fd ∈ s.fds then s else { s with ebadf := s.ebadf + 1 }

/-- `close(fd)`. -/
def State.close (s : State) (fd : Int) : State :=
  if fd ∈ s.fds then { s with fds := s.fds.erase fd } else { s with ebadf := s.ebadf + 1 }

/-- What the network stack answers one round of `main`'s loop: the descriptor `socket()` returns
or the `errno` it fails with, and likewise for `connect`, `send` (the bytes it takes) and `recv`
(the bytes it returns, none when the server has closed the connection). -/
structure Answers where
  socket : Except Int Int
  connect : Except Int Unit
  send : Except Int Nat
  recv : Except Int (List Char)

/-- `message` of `echo_test`. -/
def message : List Char := "Hello from Zephyr TCP client!\n".toList

/-- A call's answer within the network stack's contract: a value with `ok`, or a positive
`errno`. -/
def Contract {α : Type} (ok : α → Prop) : Except Int α → Prop
  | .ok v => ok v
  | .error errno => 0 < errno

instance {α : Type} (ok : α → Prop) [DecidablePred ok] : DecidablePred (Contract ok)
  | .ok v => inferInstanceAs (Decidable (ok v))
  | .error errno => inferInstanceAs (Decidable (0 < errno))

/-- The network stack's contract for one round started in `s`: a fresh descriptor, and no more
bytes taken or returned than asked for. -/
def Answers.Valid (s : State) (a : Answers) : Prop :=
  Contract (fun fd => 0 ≤ fd ∧ fd ∉ s.fds) a.socket ∧ Contract (fun _ => True) a.connect ∧
    Contract (· ≤ message.length) a.send ∧
    Contract (fun data : List Char => data.length ≤ RECV_BUF_SIZE - 1) a.recv

instance (s : State) (a : Answers) : Decidable (a.Valid s) :=
  inferInstanceAs (Decidable (_ ∧ _ ∧ _ ∧ _))

/-- `wait_for_network`.  `iface` is whether `net_if_get_default()` returns an interface, and
`ready attempt` whether at that attempt the interface is up with a global address. -/
def waitForNetwork (s : State) (iface : Bool) (ready : Nat → Bool) : State × Int :=
  if !iface then (s.print "No network interface found\n".toList, -ENODEV)
  else
    let s := s.print "Waiting for network...\n".toList
    if (List.range 30).any ready then (s.print "Network is ready\n".toList, 0)
    else (s.print "DHCP timeout - using static configuration\n".toList, 0)

/-- `connect_to_server`. -/
def connectToServer (s : State) (socket : Except Int Int) (connect : Except Int Unit) :
    State × Int :=
  match socket with
  | .error errno =>
    (s.print ("Failed to create socket: ".toList ++ fmtInt 0 errno ++ ['\n']), -errno)
  | .ok sock =>
    let s := { s with fds := s.fds ++ [sock] }.print "Socket created\n".toList
    match inetPton SERVER_ADDR with
    | none =>
      ((s.print ("Invalid server address: ".toList ++ SERVER_ADDR ++ ['\n'])).close sock, -EINVAL)
    | some _ =>
      let s := (s.print ("Connecting to ".toList ++ SERVER_ADDR ++ [':'] ++ fmtInt 0 SERVER_PORT ++
        "...\n".toList)).use sock
      match connect with
      | .error errno =>
        ((s.print ("Connection failed: ".toList ++ fmtInt 0 errno ++ ['\n'])).close sock, -errno)
      | .ok () => (s.print "Connected!\n".toList, sock)

/-- `printk("%s", buf)` after `buf[len] = '\0'`: the bytes up to the first NUL. -/
def cString (data : List Char) : List Char := data.takeWhile (· ≠ '\x00')

/-- `echo_test`. -/
def echoTest (s : State) (sock : Int) (send : Except Int Nat) (recv : Except Int (List Char)) :
    State × Int :=
  let s := (s.print ("Sending: ".toList ++ message)).use sock
  match send with
  | .error errno => (s.print ("Send failed: ".toList ++ fmtInt 0 errno ++ ['\n']), -errno)
  | .ok len =>
    let s := ((s.print ("Sent ".toList ++ fmtInt 0 len ++ " bytes\n".toList)).use sock).use sock
    match recv with
    | .error errno => (s.print ("Receive error: ".toList ++ fmtInt 0 errno ++ ['\n']), -1)
    | .ok [] => (s.print "Server closed connection\n".toList, 0)
    | .ok data => (s.print ("Received: ".toList ++ cString data ++ ['\n']), data.length)

/-- One round of `main`'s loop, up to its `k_sleep`. -/
def mainRound (s : State) (a : Answers) : State :=
  let s := { s with count := s.count + 1 }
  let s := s.print ("\n--- Connection attempt ".toList ++ fmtInt 0 s.count.toInt ++ " ---\n\n".toList)
  let (s, sock) := connectToServer s a.socket a.connect
  if sock < 0 then s.print "Will retry in 10 seconds...\n".toList
  else
    let (s, _) := echoTest s sock a.send a.recv
    let s := (s.print "\nClosing connection\n".toList).close sock
    s.print "Next connection in 30 seconds...\n".toList

/-- `main` up to its loop. -/
def mainStart (s : State) (iface : Bool) (ready : Nat → Bool) : State :=
  let s := ((s.print "\n".toList).print "TCP Client Example\n".toList).print
    "==================\n\n".toList
  let (s, ret) := waitForNetwork s iface ready
  if ret < 0 then { s.print "Network initialization failed\n".toList with main := .returned ret }
  else { s with main := .loop }

/-- `main`'s start with what the network interface answers, or a round of its loop with what
the network stack answers. -/
inductive Act
  | start (iface : Bool) (ready : Nat → Bool)
  | round (a : Answers)

/-- The example as a system. -/
def program : System State Act where
  init := init
  step s
    | .start iface ready => if s.main = .start then some (mainStart s iface ready) else none
    | .round a => if s.main = .loop ∧ a.Valid s then some (mainRound s a) else none

/-! ## Sockets -/

@[simp] theorem print_fds (s : State) (text : List Char) : (s.print text).fds = s.fds := rfl

@[simp] theorem print_ebadf (s : State) (text : List Char) : (s.print text).ebadf = s.ebadf := rfl

theorem use_of_mem {s : State} {fd : Int} (h : fd ∈ s.fds) : s.use fd = s := if_pos h

/-- Closing the socket opened last, which was not open before, gives the table back. -/
theorem close_fresh {s t : State} {fd : Int} (hfresh : fd ∉ s.fds) (hfds : t.fds = s.fds ++ [fd])
    (hebadf : t.ebadf = s.ebadf) : (t.close fd).fds = s.fds ∧ (t.close fd).ebadf = s.ebadf := by
  have hopen : fd ∈ t.fds := hfds ▸ List.mem_append_right _ (List.mem_singleton_self fd)
  rw [State.close, if_pos hopen]
  refine ⟨?_, hebadf⟩
  show t.fds.erase fd = s.fds
  rw [hfds, List.erase_append_right _ hfresh, List.erase_cons_head, List.append_nil]

/-- **`connect_to_server` closes what it does not return.**  It makes no call on a descriptor
that is not open; when it fails it returns a negative value and the table is as it was, and when
it succeeds the socket it returns is open, and the only one it opened. -/
theorem connectToServer_fds {s : State} {socket : Except Int Int} {connect : Except Int Unit}
    (hsock : Contract (fun fd => 0 ≤ fd ∧ fd ∉ s.fds) socket)
    (hconn : Contract (fun _ => True) connect) :
    (connectToServer s socket connect).1.ebadf = s.ebadf ∧
      ((connectToServer s socket connect).2 < 0 ∧ (connectToServer s socket connect).1.fds = s.fds ∨
        0 ≤ (connectToServer s socket connect).2 ∧ (connectToServer s socket connect).2 ∉ s.fds ∧
          (connectToServer s socket connect).1.fds = s.fds ++ [(connectToServer s socket connect).2]) := by
  cases socket with
  | error errno =>
    simp only [Contract] at hsock
    exact ⟨rfl, .inl ⟨by simp only [connectToServer]; omega, rfl⟩⟩
  | ok sock =>
    obtain ⟨hpos, hfresh⟩ := hsock
    have hopen : sock ∈ s.fds ++ [sock] := List.mem_append_right _ (List.mem_singleton_self sock)
    cases connect with
    | error errno =>
      simp only [Contract] at hconn
      simp only [connectToServer, inetPton_SERVER_ADDR, State.use, print_fds, if_pos hopen]
      exact ⟨(close_fresh hfresh (by rfl) (by rfl)).2,
        .inl ⟨by omega, (close_fresh hfresh (by rfl) (by rfl)).1⟩⟩
    | ok u =>
      simp only [connectToServer, inetPton_SERVER_ADDR, State.use, print_fds, if_pos hopen]
      exact ⟨rfl, .inr ⟨hpos, hfresh, trivial⟩⟩

/-- `echo_test` on an open socket makes no call on a descriptor that is not open, and opens or
closes none. -/
theorem echoTest_fds {s : State} {sock : Int} (h : sock ∈ s.fds) (send : Except Int Nat)
    (recv : Except Int (List Char)) :
    (echoTest s sock send recv).1.fds = s.fds ∧ (echoTest s sock send recv).1.ebadf = s.ebadf := by
  unfold echoTest
  simp only [State.use, print_fds, if_pos h]
  split
  · exact ⟨rfl, rfl⟩
  · split <;> exact ⟨rfl, rfl⟩

/-- **A round gives the table back.**  Whatever the network stack answers within its contract,
a round of `main`'s loop leaves the sockets open as it found them and makes no call on a
descriptor that is not open. -/
theorem mainRound_fds {s : State} {a : Answers} (hv : a.Valid s) :
    (mainRound s a).fds = s.fds ∧ (mainRound s a).ebadf = s.ebadf := by
  obtain ⟨hsock, hconn, -, -⟩ := hv
  have hc := connectToServer_fds (s := { s with count := s.count + 1 }.print
    ("\n--- Connection attempt ".toList ++ fmtInt 0 (s.count + 1).toInt ++ " ---\n\n".toList))
    hsock hconn
  unfold mainRound
  dsimp only
  generalize connectToServer _ a.socket a.connect = c at hc ⊢
  obtain ⟨s₁, sock⟩ := c
  dsimp only at hc ⊢
  obtain ⟨he, ⟨hneg, hf⟩ | ⟨hpos, hfresh, hf⟩⟩ := hc
  · rw [if_pos hneg]
    exact ⟨hf, he⟩
  · rw [if_neg (by omega)]
    obtain ⟨hf', he'⟩ := echoTest_fds (hf ▸ List.mem_append_right _ (List.mem_singleton_self sock))
      a.send a.recv
    generalize echoTest s₁ sock a.send a.recv = e at hf' he' ⊢
    exact close_fresh (t := e.1.print _) hfresh (hf'.trans hf) (he'.trans he)

theorem waitForNetwork_fds (s : State) (iface : Bool) (ready : Nat → Bool) :
    (waitForNetwork s iface ready).1.fds = s.fds ∧
      (waitForNetwork s iface ready).1.ebadf = s.ebadf := by
  unfold waitForNetwork
  split
  · exact ⟨rfl, rfl⟩
  · split <;> exact ⟨rfl, rfl⟩

theorem mainStart_fds (s : State) (iface : Bool) (ready : Nat → Bool) :
    (mainStart s iface ready).fds = s.fds ∧ (mainStart s iface ready).ebadf = s.ebadf := by
  have h := waitForNetwork_fds (((s.print "\n".toList).print "TCP Client Example\n".toList).print
    "==================\n\n".toList) iface ready
  unfold mainStart
  dsimp only
  generalize waitForNetwork _ iface ready = w at h ⊢
  obtain ⟨s', ret⟩ := w
  dsimp only at h ⊢
  split <;> exact h

/-- **No socket is leaked, used after it is closed, or closed twice.**  At the start of every
round no socket is open, and no call of the program has been made on a descriptor that was not
open. -/
theorem sockets_closed_each_round : program.Invariant fun s => s.fds = [] ∧ s.ebadf = 0 where
  init := ⟨rfl, rfl⟩
  step a h hs := by
    cases a with
    | start iface ready =>
      simp only [program] at hs
      split at hs <;> simp only [Option.some.injEq, reduceCtorEq] at hs
      subst hs
      exact ⟨(mainStart_fds _ iface ready).1.trans h.1, (mainStart_fds _ iface ready).2.trans h.2⟩
    | round a =>
      simp only [program] at hs
      split at hs <;> simp only [Option.some.injEq, reduceCtorEq] at hs
      subst hs
      rename_i hv
      obtain ⟨hf, he⟩ := mainRound_fds hv.2
      exact ⟨hf.trans h.1, he.trans h.2⟩

/-! ## `http_get` -/

/-- The request `http_get` formats for `path`. -/
def httpRequest (path : List Char) : List Char :=
  "GET ".toList ++ path ++ " HTTP/1.1\r\nHost: ".toList ++ SERVER_ADDR ++
    "\r\nConnection: close\r\n\r\n".toList

/-- `len = snprintf(buf, sizeof(buf), ...)` of `http_get`: what `buf` holds, and `len`. -/
def httpBuf (path : List Char) : List Char × Nat := snprintf RECV_BUF_SIZE (httpRequest path)

/-- `http_get`, which nothing in the program calls.  `send` is what `send(sock, buf, len, 0)`
returns, `chunks` the data of the `recv` calls that return more than 0 bytes, and `last` what
the `recv` that ends the loop returns: 0, or an `errno`. -/
def httpGet (s : State) (sock : Int) (path : List Char) (send : Except Int Nat)
    (chunks : List (List Char)) (last : Except Int Unit) : State × Int :=
  let s := (s.print ("Sending request:\n".toList ++ (httpBuf path).1)).use sock
  match send with
  | .error errno => (s.print ("Send failed: ".toList ++ fmtInt 0 errno ++ ['\n']), -errno)
  | .ok sent =>
    let s := ((s.print ("Sent ".toList ++ fmtInt 0 sent ++ " bytes\n".toList)).print
      "\nResponse:\n".toList).print "=========\n".toList
    let s := chunks.foldl (fun s data => (s.use sock).print (cString data)) s
    let total : Int := (chunks.map List.length).sum
    let s := ((s.use sock).print "\n=========\n".toList).print
      ("Received ".toList ++ fmtInt 0 total ++ " bytes total\n".toList)
    match last with
    | .error errno => (s.print ("Receive error: ".toList ++ fmtInt 0 errno ++ ['\n']), -errno)
    | .ok () => (s, total)

/-- **`http_get` can send past its buffer.**  `snprintf` returns the length of the whole request,
57 characters and the path; `buf` holds the request only when that fits in 255 characters, and
the length passed to `send` exceeds the 256 bytes of `buf` once the path is longer than 199
characters. -/
theorem httpGet_send_length (path : List Char) :
    (httpBuf path).2 = path.length + 57 ∧
      ((httpBuf path).1 = httpRequest path ↔ path.length ≤ 198) ∧
      (RECV_BUF_SIZE < (httpBuf path).2 ↔ 199 < path.length) := by
  have hlen : (httpRequest path).length = path.length + 57 := by
    have hfixed : "GET ".toList.length + " HTTP/1.1\r\nHost: ".toList.length + SERVER_ADDR.length +
        "\r\nConnection: close\r\n\r\n".toList.length = 57 := by decide
    simp only [httpRequest, List.length_append]
    omega
  refine ⟨hlen, ?_, by rw [httpBuf, snprintf, hlen, RECV_BUF_SIZE]; omega⟩
  rw [httpBuf, snprintf]
  constructor
  · intro h
    have := congrArg List.length h
    rw [List.length_take, hlen, RECV_BUF_SIZE] at this
    omega
  · intro h
    exact List.take_of_length_le (by rw [hlen, RECV_BUF_SIZE]; omega)


end Tcp
end ZephyrGuide
