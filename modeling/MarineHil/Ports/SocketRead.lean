import MarineHil.Ports.ODriveFeedback

/-!
# `read` on the socket

`read_nonblocking` takes one datagram off the socket, and `read` calls it until it returns
false, which it does when nothing waits and when `recvmsg` fails.  A datagram shorter than
a frame is dropped, and the reading goes on.

The driver that is handed lists of frames is the one of `ODriveHardwareInterface`; here it
takes them off the socket, between arrivals in any order.  The socket stays open: configuring
and cleaning up the driver are none of the events.

## Main results

* `driver_run`: the driver on the socket is the driver with the frames that it took, and what
  it took and what still waits is what arrived.
* `exported_of_arrived`: no frame is lost, doubled or overtaken on the way to `ros2_control`.
-/

namespace MarineHil.Ports

open Verified ODriveHardwareInterface

/-- What waits on the socket: the bytes that `recvmsg` returns, by their number and the frame
that they fill. -/
structure Datagram where
  nReceived : ℕ
  frame : CanFrame

/-- The size of a `can_frame`. -/
def canFrameSize : ℕ := 16

/-- The frame to process, unless the message length is invalid. -/
def Datagram.valid (d : Datagram) : Option CanFrame :=
  if d.nReceived < canFrameSize then none else some d.frame

/-- `read_nonblocking`: what it returns, the frame that it processes, and what waits after
it. -/
def readNonblocking (fails : Bool) : List Datagram → Bool × Option CanFrame × List Datagram
  | [] => (false, none, [])
  | d :: waiting => if fails then (false, none, d :: waiting) else (true, d.valid, waiting)

theorem length_readNonblocking {fails : Bool} {waiting : List Datagram}
    (h : (readNonblocking fails waiting).1 = true) :
    (readNonblocking fails waiting).2.2.length < waiting.length := by
  cases waiting with
  | nil => exact absurd h Bool.false_ne_true
  | cons d waiting =>
      cases fails with
      | true => exact absurd h Bool.false_ne_true
      | false => exact Nat.lt_succ_self waiting.length

/-- The driver, and what waits on its socket. -/
structure ODriveSocket (α : Type) where
  driver : ODriveHardwareInterface α
  waiting : List Datagram

/-- An arrival on the socket, a `read` that fails at some calls of `recvmsg`, or any other
event of the driver. -/
inductive SocketEvent (α : Type) where
  | arrive (d : Datagram)
  | read (fails : ℕ → Bool)
  | other (e : ODriveEvent α) (he : ∀ frames, e ≠ .read frames)

section Socket

variable {α : Type} [Double α] {m : Platform α} {s : ODriveHardwareInterface α}

namespace ODriveSocket

/-- `read`, until `read_nonblocking` returns false. -/
def read (m : Platform α) (fails : ℕ → Bool) (s : ODriveSocket α) : ODriveSocket α :=
  let result := readNonblocking (fails 0) s.waiting
  if result.1 = true then
    read m (fun i => fails (i + 1))
      ⟨result.2.1.elim s.driver (s.driver.onCanMsg m), result.2.2⟩
  else ⟨s.driver, result.2.2⟩
termination_by s.waiting.length
decreasing_by exact length_readNonblocking ‹_›

def step (m : Platform α) (s : ODriveSocket α) : SocketEvent α → ODriveSocket α
  | .arrive d => { s with waiting := s.waiting ++ [d] }
  | .read fails => s.read m fails
  | .other e _ => { s with driver := s.driver.step m e }

/-- A read takes datagrams from the front, all of them if `recvmsg` does not fail. -/
theorem read_spec (fails : ℕ → Bool) (s : ODriveSocket α) :
    ∃ taken left, s.waiting = taken ++ left ∧
      s.read m fails = ⟨(taken.filterMap Datagram.valid).foldl (onCanMsg m) s.driver, left⟩ ∧
      ((∀ i, fails i = false) → left = []) := by
  obtain ⟨driver, waiting⟩ := s
  induction waiting generalizing fails driver with
  | nil =>
      refine ⟨[], [], rfl, ?_, fun _ => rfl⟩
      rw [read]
      rfl
  | cons d waiting ih =>
      rw [read]
      cases hfails : fails 0 with
      | true =>
          refine ⟨[], d :: waiting, rfl, rfl, fun hnone => ?_⟩
          rw [hnone 0] at hfails
          exact absurd hfails Bool.false_ne_true
      | false =>
          obtain ⟨taken, left, hwaiting, hread, hall⟩ :=
            ih (fun i => fails (i + 1)) (d.valid.elim driver (driver.onCanMsg m))
          refine ⟨d :: taken, left, congrArg (d :: ·) hwaiting, ?_, fun hnone => ?_⟩
          · refine hread.trans ?_
            rw [List.filterMap_cons]
            cases d.valid <;> rfl
          · exact hall fun i => hnone (i + 1)

end ODriveSocket

/-- The frames that arrived. -/
def arrived (es : List (SocketEvent α)) : List CanFrame :=
  es.filterMap fun
    | .arrive d => d.valid
    | _ => none

omit [Double α] in
theorem received_append (ds fs : List (ODriveEvent α)) :
    received (ds ++ fs) = received ds ++ received fs := List.flatMap_append

omit [Double α] in
theorem received_of_ne_read {e : ODriveEvent α} (he : ∀ frames, e ≠ .read frames) :
    received [e] = [] := by
  cases e with
  | read frames => exact absurd rfl (he frames)
  | _ => rfl

/-- **The driver on the socket is the driver that is handed frames**: those that it has taken
are, with those that wait, the ones that arrived, in their order. -/
theorem driver_run (es : List (SocketEvent α)) :
    ∃ ds : List (ODriveEvent α),
      (run (ODriveSocket.step m) ⟨s, []⟩ es).driver = run (step m) s ds ∧
        received ds ++ (run (ODriveSocket.step m) ⟨s, []⟩ es).waiting.filterMap Datagram.valid =
          arrived es := by
  induction es using List.reverseRecOn with
  | nil => exact ⟨[], rfl, rfl⟩
  | append_singleton es e ih =>
      obtain ⟨ds, hdriver, hframes⟩ := ih
      have harrived : arrived (es ++ [e]) = arrived es ++ arrived [e] := List.filterMap_append
      rw [run_concat, harrived, ← hframes]
      cases e with
      | arrive d =>
          refine ⟨ds, hdriver, ?_⟩
          rw [List.append_assoc]
          exact congrArg (received ds ++ ·) List.filterMap_append
      | read fails =>
          obtain ⟨taken, left, hwaiting, hread, _⟩ :=
            (run (ODriveSocket.step m) ⟨s, []⟩ es).read_spec (m := m) fails
          refine ⟨ds ++ [.read (taken.filterMap Datagram.valid)], ?_, ?_⟩
          · rw [run_concat, ← hdriver]
            exact congrArg ODriveSocket.driver hread
          · have htaken : received [ODriveEvent.read (α := α) (taken.filterMap Datagram.valid)] =
                taken.filterMap Datagram.valid := List.append_nil _
            have hleft : arrived [SocketEvent.read (α := α) fails] = [] := rfl
            rw [ODriveSocket.step, hread, hwaiting, received_append, htaken, hleft,
              List.filterMap_append, List.append_assoc, List.append_nil]
      | other e he =>
          refine ⟨ds ++ [e], ?_, ?_⟩
          · rw [run_concat, ← hdriver]
            rfl
          · have hnone : arrived [SocketEvent.other e he] = [] := rfl
            rw [received_append, received_of_ne_read he, hnone, List.append_nil, List.append_nil]
            rfl

/-- **No frame is lost, doubled or overtaken** between an open socket and `ros2_control`,
whatever is dropped for its length and wherever a read breaks off: what is exported is what a
first part of the frames that arrived reported, and all of them after a read that does not. -/
theorem exported_of_arrived {active : Bool} {joints : List JointInfo}
    (h : onInit m active joints = some s) (es : List (SocketEvent α)) :
    (∃ k, exportStateInterfaces (run (ODriveSocket.step m) ⟨s, []⟩ es).driver =
      s.axes.flatMap fun a => reported m a.joint a.nodeId.toNat ((arrived es).take k)) ∧
    exportStateInterfaces
        (run (ODriveSocket.step m) ⟨s, []⟩ (es ++ [.read fun _ => false])).driver =
      s.axes.flatMap fun a => reported m a.joint a.nodeId.toNat (arrived es) := by
  constructor
  · obtain ⟨ds, hdriver, hframes⟩ := driver_run (m := m) (s := s) es
    refine ⟨(received ds).length, ?_⟩
    rw [hdriver, exportStateInterfaces_run h, ← hframes, List.take_left]
  · obtain ⟨ds, hdriver, hframes⟩ := driver_run (m := m) (s := s) (es ++ [.read fun _ => false])
    obtain ⟨taken, left, _, hread, hall⟩ :=
      (run (ODriveSocket.step m) ⟨s, []⟩ es).read_spec (m := m) fun _ => false
    have hempty : (run (ODriveSocket.step m) ⟨s, []⟩ (es ++ [.read fun _ => false])).waiting =
        [] := by
      rw [run_concat, ODriveSocket.step, hread]
      exact hall fun _ => rfl
    have harrived : arrived (es ++ [SocketEvent.read fun _ => false]) = arrived es :=
      List.filterMap_append.trans (List.append_nil _)
    rw [hempty, harrived, List.filterMap_nil, List.append_nil] at hframes
    rw [hdriver, exportStateInterfaces_run h, hframes]

theorem exported_of_arrived_shortDatagram :
    exportStateInterfaces (run (ODriveSocket.step zeroing) ⟨twoAxes, []⟩
      ([.arrive ⟨4, Axis.frame zeroing blank 3 ⟨getTorquesMsg, getTorques (.round 1) (.round 2)⟩⟩,
        .read fun _ => true,
        .arrive ⟨16, Axis.frame zeroing blank 3
          ⟨getTorquesMsg, getTorques (.round 3) (.round 4)⟩⟩] ++ [.read fun _ => false])).driver =
      twoAxes.axes.flatMap fun a => reported zeroing a.joint a.nodeId.toNat
        [Axis.frame zeroing blank 3 ⟨getTorquesMsg, getTorques (.round 3) (.round 4)⟩] :=
  (exported_of_arrived onInit_twoJoints _).2

end Socket

end MarineHil.Ports
