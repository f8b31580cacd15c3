import RcDiscover.Gui.DeviceList
import RcDiscover.Gui.Inputs
import RcDiscover.Lib.RecursiveLock
import RcDiscover.Lib.Runs

/-!
# The window and its discover threads

`discover_window.cc` and the end of `main`: the GUI thread, which has the lock of FLTK except
while it waits for events, and the threads that `doDiscover` starts.  Every call, every access to
`running` and every operation on the lock is a step of its own.

* `DiscoverWindow`: the members that the two kinds of threads share, and `update`;
* `Pc.step`: the control flow of `discoverThread`, with an exception wherever a call is made;
* `Process.threadStep`, `Process.guiStep`: the steps of a discover thread and of the GUI thread.

A step that its thread is not at, or that has to wait, does nothing, so that a list of steps is an
interleaving, and every list is one.
-/

namespace RcDiscover
namespace Gui

/-! ### The window -/

/-- `DiscoverWindow`.  The threads are numbered in the order in which they are started. -/
structure DiscoverWindow (τ : Type) where
  running : Bool
  discoverThread : Option ℕ
  list : DeviceList τ
  /-- the buttons and the logo -/
  discoverActive : Bool
  spinning : Bool
  resetActive : Bool
  changeIpConfigActive : Bool

namespace DiscoverWindow

variable {τ : Type} (fl : FlTableRow τ)

/-- `DiscoverWindow::update`. -/
def update (w : DiscoverWindow τ) : DiscoverWindow τ :=
  { w with
    resetActive := w.list.isRCVisardSelected fl || (w.list.getSelectedMAC fl).length == 0
    changeIpConfigActive :=
      w.list.isReachableDeviceSelected fl || (w.list.getSelectedMAC fl).length == 0
    discoverActive := !w.running
    spinning := w.running }

/-- `list->filterRCDevices`, which calls `update` for the selection. -/
def filterRCDevices (w : DiscoverWindow τ) (filterRc : Bool) : DiscoverWindow τ :=
  { w with list := w.list.filterRCDevices fl filterRc }.update fl

/-- `list->filter`, which calls `update` for the selection. -/
def filter (w : DiscoverWindow τ) (filterValue : Str) : DiscoverWindow τ :=
  { w with list := w.list.filter fl filterValue }.update fl

/-- `list->handle`: some operations for an event on the table, and `update` for the selection. -/
def handle (w : DiscoverWindow τ) (ops : List Op) : DiscoverWindow τ :=
  { w with list := ops.foldl (DeviceList.step fl) w.list }.update fl

/-- `DiscoverWindow::doOnlyRC`, with the value of the check button. -/
def doOnlyRC (w : DiscoverWindow τ) (onlyRC : Bool) : DiscoverWindow τ :=
  (w.filterRCDevices fl onlyRC).update fl

/-- `DiscoverWindow::doFilter`, with the value of the input field. -/
def doFilter (w : DiscoverWindow τ) (filterValue : Str) : DiscoverWindow τ :=
  (w.filter fl filterValue).update fl

/-- The window after the constructor and `setSorting`. -/
def create (onlyRC : Bool) (filterValue : Str) (sortCol : ℤ) (sortDown : Bool) :
    DiscoverWindow τ :=
  let w : DiscoverWindow τ :=
    { running := false
      discoverThread := none
      list := DeviceList.init fl
      discoverActive := true
      spinning := false
      resetActive := true
      changeIpConfigActive := true }
  let w := ((w.filterRCDevices fl onlyRC).filter fl filterValue).update fl
  { w with list := w.list.setSorting fl sortCol sortDown }

end DiscoverWindow

/-! ### The control flow of `discoverThread` -/

/-- An exception, with `what()` for a `std::exception`. -/
inductive Thrown
  | exception (what : Str)
  | unknown
  deriving DecidableEq

/-- What the next call of a discover thread comes to.  Each step uses the parts that its call
has. -/
structure Answer where
  /-- the call ends with an exception -/
  thrown : Option Thrown
  /-- the result of `getResponse` and the records it has appended -/
  response : Bool
  info : List DeviceInfo
  /-- `tend-tstart` is below 1000 ms -/
  inTime : Bool
  /-- the result of `checkReachabilityOfSensor` -/
  reachable : Bool
  deriving DecidableEq

/-- Where a discover thread is: in front of the call that the name says. -/
inductive Pc
  -- clear the list
  | lockClear
  | clear
  | updateClear
  | unlockClear
  | awakeClear
  -- broadcast the request and collect the answers
  | construct
  | broadcastRequest
  | testRunning
  | getResponse
  -- add the answers to the table
  | lockAdd (info : List DeviceInfo)
  | checkReachability (info : List DeviceInfo)
  | add (device : DeviceInfo) (reachable : Bool) (info : List DeviceInfo)
  | updateAdd
  | unlockAdd
  | awakeAdd
  -- the handlers
  | report (ex : Thrown)
  -- leave
  | lockLast
  | clearRunning
  | updateLast
  | unlockLast
  | awakeLast
  | returned
  deriving DecidableEq

/-- What a step does to what the threads share. -/
inductive Effect
  | skip
  | lock
  | unlock
  | clear
  | add (a : Discovered)
  | update
  | clearRunning
  | print (line : Str)
  | terminate

/-- The texts of the handlers. -/
def Thrown.message : Thrown → Str
  | .exception what => "Exception in discover thread: ".toList ++ what
  | .unknown => "Unknown exception in discover thread".toList

/-- The arguments of `list->add`. -/
def discovered (info : DeviceInfo) (reachable : Bool) : Discovered where
  name := info.userName
  manufacturer := info.manufacturerName
  model := info.modelName
  sn := info.serialNumber
  ip := threadIp info
  mac := threadMac info
  interface := info.ifaceName
  reachable := reachable

/-- A call in the `try` block: an exception leads into the handlers.  What the call has done by then
is left out. -/
def tryCall (a : Answer) (e : Effect) (next : Pc) : Effect × Pc :=
  match a.thrown with
  | none => (e, next)
  | some ex => (.skip, .report ex)

/-- `DiscoverWindow::discoverThread`: the effect of the next step and where the thread is then. -/
def Pc.step (running : Bool) (a : Answer) : Pc → Effect × Pc
  | .lockClear => (.lock, .clear)
  | .clear => tryCall a .clear .updateClear
  | .updateClear => tryCall a .update .unlockClear
  | .unlockClear => (.unlock, .awakeClear)
  | .awakeClear => (.skip, .construct)
  | .construct => tryCall a .skip .broadcastRequest
  | .broadcastRequest => tryCall a .skip .testRunning
  | .testRunning => (.skip, if running then .getResponse else .lockLast)
  | .getResponse => tryCall a .skip (if a.response || a.inTime then .lockAdd a.info else .lockLast)
  | .lockAdd info => (.lock, .checkReachability info)
  | .checkReachability [] => (.skip, .updateAdd)
  | .checkReachability (device :: info) =>
    if device.isValid then tryCall a .skip (.add device a.reachable info)
    else (.skip, .checkReachability info)
  | .add device reachable info =>
    tryCall a (.add (discovered device reachable)) (.checkReachability info)
  | .updateAdd => tryCall a .update .unlockAdd
  | .unlockAdd => (.unlock, .awakeAdd)
  | .awakeAdd => (.skip, .testRunning)
  | .report ex => (.print ex.message, .lockLast)
  | .lockLast => (.lock, .clearRunning)
  | .clearRunning => (.clearRunning, .updateLast)
  -- no handler around this call
  | .updateLast => if a.thrown = none then (.update, .unlockLast) else (.terminate, .updateLast)
  | .unlockLast => (.unlock, .awakeLast)
  | .awakeLast => (.skip, .returned)
  | .returned => (.skip, .returned)

/-- What an effect does to the window. -/
def Effect.onWindow {τ : Type} (fl : FlTableRow τ) (w : DiscoverWindow τ) :
    Effect → DiscoverWindow τ
  | .clear => { w with list := w.list.clear fl }
  | .add a => { w with list := w.list.add fl a }
  | .update => w.update fl
  | .clearRunning => { w with running := false }
  | _ => w

/-! ### The process -/

/-- The parties that take the lock of FLTK. -/
inductive Party
  | gui
  | thread (t : ℕ)
  deriving DecidableEq

/-- A discover thread: where it is, and how often it has called `Fl::lock` and `Fl::unlock`. -/
structure DiscoverThread where
  pc : Pc
  locks : ℕ
  unlocks : ℕ

/-- A new thread. -/
def DiscoverThread.start : DiscoverThread := ⟨.lockClear, 0, 0⟩

/-- Where the GUI thread is. -/
inductive GuiPc
  -- in `Fl::run`
  | waiting
  | dispatching
  -- in `doDiscover`
  | stop
  | join
  | run
  | create
  | update
  -- `main` after `Fl::run`, and the destructor of the window
  | unlock
  | destroy
  | destroyJoin
  | ended
  deriving DecidableEq

/-- The window, the lock, the threads, of which `created` exist, and the standard error. -/
structure Process (τ : Type) where
  window : DiscoverWindow τ
  lock : RecursiveLock Party
  thread : ℕ → DiscoverThread
  created : ℕ
  gui : GuiPc
  cerr : List Str
  terminated : Bool

/-- What the GUI thread dispatches. -/
inductive Event
  | rerun
  | onlyRC (value : Bool)
  | filter (value : Str)
  | handle (ops : List Op)
  | close

/-- A step: the GUI thread gives the lock back and waits, gets it again, dispatches an event, or
goes on in a function; or a discover thread goes on. -/
inductive Action
  | wait
  | wake
  | dispatch (event : Event)
  | next
  | thread (t : ℕ) (a : Answer)

namespace Process

variable {τ : Type} (fl : FlTableRow τ)

/-- The process when `main` calls `doDiscover`; `main` has taken the lock. -/
def start (onlyRC : Bool) (filterValue : Str) (sortCol : ℤ) (sortDown : Bool) : Process τ where
  window := DiscoverWindow.create fl onlyRC filterValue sortCol sortDown
  lock := .held .gui 0
  thread _ := .start
  created := 0
  gui := .stop
  cerr := []
  terminated := false

/-- The thread `t` has made a step. -/
def goto (s : Process τ) (t : ℕ) (pc : Pc) : Process τ :=
  { s with thread := Function.update s.thread t { s.thread t with pc } }

/-- A step of the thread `t`. -/
def threadStep (s : Process τ) (t : ℕ) (a : Answer) : Process τ :=
  if t < s.created then
    match (s.thread t).pc.step s.window.running a with
    | (.lock, pc) =>
      match s.lock.acquire (.thread t) with
      | some lock =>
        { s with
          lock
          thread := Function.update s.thread t
            ⟨pc, (s.thread t).locks + 1, (s.thread t).unlocks⟩ }
      | none => s
    | (.unlock, pc) =>
      { s with
        lock := s.lock.release (.thread t)
        thread := Function.update s.thread t
          ⟨pc, (s.thread t).locks, (s.thread t).unlocks + 1⟩ }
    | (.print line, pc) => { s.goto t pc with cerr := s.cerr ++ [line] }
    | (.terminate, _) => { s with terminated := true }
    | (e, pc) => { s.goto t pc with window := e.onWindow fl s.window }
  else s

/-- `discover_thread->join()` returns, or there is nothing to join. -/
def joinable (s : Process τ) : Bool :=
  match s.window.discoverThread with
  | none => true
  | some t => (s.thread t).pc = .returned

/-- The callback for an event. -/
def dispatch (s : Process τ) : Event → Process τ
  -- an inactive button has no callbacks
  | .rerun => if s.window.discoverActive then { s with gui := .stop } else s
  | .onlyRC value => { s with window := s.window.doOnlyRC fl value }
  | .filter value => { s with window := s.window.doFilter fl value }
  | .handle ops => { s with window := s.window.handle fl ops }
  -- with the window hidden, `Fl::run` returns
  | .close => if s.window.running then s else { s with gui := .unlock }

/-- The next step of `doDiscover` or of the end of `main`. -/
def nextStep (s : Process τ) : Process τ :=
  match s.gui with
  | .stop => { s with window := { s.window with running := false }, gui := .join }
  | .join =>
    if s.joinable then { s with window := { s.window with discoverThread := none }, gui := .run }
    else s
  | .run => { s with window := { s.window with running := true }, gui := .create }
  | .create =>
    { s with
      window := { s.window with discoverThread := some s.created }
      thread := Function.update s.thread s.created .start
      created := s.created + 1
      gui := .update }
  | .update => { s with window := s.window.update fl, gui := .dispatching }
  | .unlock => { s with lock := s.lock.release .gui, gui := .destroy }
  | .destroy => { s with window := { s.window with running := false }, gui := .destroyJoin }
  | .destroyJoin => if s.joinable then { s with gui := .ended } else s
  | .waiting | .dispatching | .ended => s

/-- One step of the process. -/
def step (s : Process τ) (action : Action) : Process τ :=
  if s.terminated then s
  else match action with
    | .wait =>
      if s.gui = .dispatching then { s with lock := s.lock.release .gui, gui := .waiting } else s
    | .wake =>
      match s.lock.acquire .gui with
      | some lock => if s.gui = .waiting then { s with lock, gui := .dispatching } else s
      | none => s
    | .dispatch event => if s.gui = .dispatching then s.dispatch fl event else s
    | .next => s.nextStep fl
    | .thread t a => s.threadStep fl t a

end Process

end Gui
end RcDiscover
