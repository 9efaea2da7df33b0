import Offload.Session.Basic

/-!
The steps of a session, one after another, each with its reply and what it brought about.

A step that names something the session does not have is answered with `absent` and does nothing.
-/

namespace Offload.Session

open Simulator

/-- A handle as a script writes it: the null handle, an index field on what a bare table's last
attempt to create a context gave, or a word. -/
inductive HandleText
  | null
  | field (n : Nat)
  | word (bits : UInt64)

/-- A call of an entry point of a bare table. -/
inductive RawCall
  | createContext
  | totalCores (context : HandleText)
  | registerHeap (base size : UInt64)
  | createKernel (context : HandleText) (code name : Option (List UInt8))
  | clearArgs (kernel : HandleText)
  | push (kernel : HandleText) (arg : Pushed)
  | execute (kernel : HandleText) (dim : Int32)

/-- A method's descriptor or its kinds. -/
inductive SignatureText
  | descriptor (text : String) (isStatic : Bool)
  | void (params : List Kind) (hasReceiver : Bool)

def SignatureText.signature : SignatureText → Except Fault Signature
  | .descriptor text isStatic => (Signature.parse text isStatic).mapError (Fault.ofFlaw text)
  | .void params hasReceiver => .ok (.void params hasReceiver)

inductive Step
  | install (change : Options → Options) (count : Nat)
  | configure (sim : Nat) (change : Options → Options)
  | dropSim (sim : Nat)
  | journal (sim : Nat)
  | takeJournal (sim : Nat)
  | exports (sim : Nat) (names : List String)
  | bridgeOver (sim : Nat) (settings : Settings)
  | watchedBridge (sim : Nat) (settings : Settings) (opens : List Bool) (nulls : List String)
  | libraryBridge (settings : Settings) (loads : Bool)
  | dropBridge (bridge : Nat)
  | settings (bridge : Nat)
  | link (bridge : Nat)
  | connect (bridge : Nat)
  | totalCores (bridge : Nat)
  | status (bridge : Nat)
  | registerHeap (bridge : Nat) (region : Region)
  | loadKernel (bridge : Nat) (name : String) (code : List UInt8)
  | launch (kernel : Nat) (through : Option Nat) (signature : SignatureText) (args : List Value)
    (dim : Int32)
  | kernelInfo (kernel : Nat)
  | offload (bridge : Nat) (signature : SignatureText) (args : List Value) (dim : Int32)
    (name : String) (code : List UInt8) (heap : Region)
  | table (sim : Nat)
  | call (table : Nat) (call : RawCall)

inductive Reply
  | absent
  | done
  | fault (e : Fault)
  | count (n : Nat)
  | flag (b : Bool)
  | flags (bs : List Bool)
  | calls (cs : List Call)
  | settings (s : Settings)
  | status (linked : Bool) (device : Option Device)
  | region (r : Region)
  | kernel (index : Nat) (k : Kernel)
  | kernelInfo (k : Kernel) (cores : UInt32)
  | table (index : Nat) (hasCores : Bool)
  | handle (h : Handle)
  | cores (n : Option UInt32)

/-- What a step brought about. -/
structure Report where
  reply : Reply
  /-- The calls that devices still held received, with their numbers. -/
  calls : List (Nat × Call) := []
  notices : List Notice := []
  queries : List Query := []

/-- Replies to a step of a bridge. -/
def onBridge {β : Type} (s : Session) (i : Nat) (action : Action β) (reply : β → Reply) :
    Report × Session :=
  let watched := (s.seat? i).any Seat.watched
  match s.run i action with
  | (none, s') => ({ reply := .absent }, s')
  | (some (outcome, notices, queries), s') =>
    ({ reply := match outcome with
        | .ok b => reply b
        | .error e => .fault e
       notices := notices.toList
       queries := if watched then queries.toList else [] }, s')

def installMany (s : Session) (options : Options) : Nat → List Notice × Session
  | 0 => ([], s)
  | n + 1 =>
    let reported := s.installNotices
    let (more, s') := installMany (s.install options) options n
    (reported ++ more, s')

def HandleText.handle (context : Handle) : HandleText → Handle
  | .null => .null
  | .field n => ⟨context.bits ||| UInt64.ofNat n⟩
  | .word bits => ⟨bits⟩

/-- The reply to a call, and the handle it gave if it was to create a context. -/
def RawCall.run (t : BareTable) (f : Fleet) : RawCall → (Reply × Option Handle) × Fleet
  | .createContext =>
    let (h, f) := f.createContext t.table.createContext
    ((.handle h, some h), f)
  | .totalCores context =>
    match t.table.totalCores with
    | none => ((.cores none, none), f)
    | some query =>
      let (n, f) := f.totalCores query (context.handle t.context)
      ((.cores (some n), none), f)
  | .registerHeap base size =>
    let (b, f) := f.registerHeap t.table.registerHeap base size
    ((.flag b, none), f)
  | .createKernel context code name =>
    let (h, f) := f.createKernel t.table.createKernel (context.handle t.context) code name
    ((.handle h, none), f)
  | .clearArgs kernel =>
    let (b, f) := f.clearArgs t.table.clearArgs (kernel.handle t.context)
    ((.flag b, none), f)
  | .push kernel arg =>
    let (b, f) := f.push (t.table.push arg.kind) (kernel.handle t.context) arg
    ((.flag b, none), f)
  | .execute kernel dim =>
    let (b, f) := f.execute t.table.execute (kernel.handle t.context) dim
    ((.flag b, none), f)

def addKernel (s : Session) (k : Kernel) : Session := { s with kernels := s.kernels.push (some k) }

def setKernel (s : Session) (i : Nat) (k : Kernel) : Session :=
  { s with kernels := s.kernels.setIfInBounds i (some k) }

/-- Launches a kernel through a bridge, or on its own device. -/
def launchStep (s : Session) (i : Nat) (k : Kernel) (through : Option Nat)
    (signature : Signature) (args : List Value) (dim : Int32) : Report × Session :=
  let action : Action Kernel :=
    match through with
    | some _ => Bridge.launch k dim args signature
    | none => do Bridge.launchOn (← Bridge.requireDevice "") k dim args signature
  let seat := through.getD k.owner
  let watched := (s.seat? seat).any Seat.watched
  match s.run seat action with
  | (none, s') => ({ reply := .absent }, s')
  | (some (outcome, notices, queries), s') =>
    let notices := notices.toList
    let queries := if watched then queries.toList else []
    match outcome with
    | .ok k' => ({ reply := .count k'.launches, notices, queries }, s'.setKernel i k')
    | .error e => ({ reply := .fault e, notices, queries }, s')

/-- Loads a kernel, which gets the next number if that succeeds. -/
def loadStep (s : Session) (i : Nat) (code : Code) : Report × Session :=
  let index := s.kernels.size
  match s.run i (Bridge.loadKernel code) with
  | (none, s') => ({ reply := .absent }, s')
  | (some (.ok k, notices, _), s') =>
    ({ reply := .kernel index k, notices := notices.toList }, s'.addKernel k)
  | (some (.error e, notices, _), s') => ({ reply := .fault e, notices := notices.toList }, s')

/-- A step without the calls it brought about. -/
def perform (s : Session) : Step → Report × Session
  | .install change count =>
    let (notices, s') := s.installMany (change {}) count
    ({ reply := .count s'.held.size, notices }, s')
  | .configure sim change =>
    ({ reply := .done }, { s with fleet := s.fleet.configure sim change })
  | .dropSim sim => ({ reply := .done }, s.dropSim sim)
  | .journal sim => ({ reply := .calls (s.fleet.journal sim).toList }, s)
  | .takeJournal sim =>
    let (calls, fleet) := s.fleet.drain sim
    ({ reply := .calls calls.toList }, { s with fleet })
  | .exports sim names =>
    ({ reply := .flags (names.map fun n => (s.fleet.exported? sim n).isSome) }, s)
  | .bridgeOver sim settings =>
    let s' := s.addBridge (.simulated sim) settings (some sim) false
    ({ reply := .count s'.seats.size }, s')
  | .watchedBridge sim settings opens nulls =>
    let s' := s.addBridge (.scripted sim opens nulls) settings (some sim) true
    ({ reply := .count s'.seats.size }, s')
  | .libraryBridge settings loads =>
    let s' := s.addBridge (.library settings.libraryText loads) settings none false
    ({ reply := .count s'.seats.size }, s')
  | .dropBridge i => ({ reply := .done }, s.dropBridge i)
  | .settings i =>
    match s.seat? i with
    | some seat => ({ reply := .settings seat.bridge.settings }, s)
    | none => ({ reply := .absent }, s)
  | .link i => s.onBridge i Bridge.link fun _ => .done
  | .connect i => s.onBridge i Bridge.connect fun d => .cores (some d.cores)
  | .totalCores i => s.onBridge i Bridge.totalCores fun n => .cores (some n)
  | .status i =>
    match s.seat? i with
    | some seat => ({ reply := .status seat.bridge.isLinked seat.bridge.device? }, s)
    | none => ({ reply := .absent }, s)
  | .registerHeap i region => s.onBridge i (Bridge.registerHeap region) .region
  | .loadKernel i name code =>
    match Code.of code name with
    | .error e => ({ reply := .fault e }, s)
    | .ok code => s.loadStep i code
  | .launch i through signature args dim =>
    match signature.signature, s.kernel? i with
    | .error e, _ => ({ reply := .fault e }, s)
    | .ok _, none => ({ reply := .absent }, s)
    | .ok signature, some k => s.launchStep i k through signature args dim
  | .kernelInfo i =>
    match s.kernel? i with
    | some k =>
      let cores := ((s.seat? k.owner).bind fun seat => seat.bridge.device?).map Device.cores
      ({ reply := .kernelInfo k (cores.getD 0) }, s)
    | none => ({ reply := .absent }, s)
  | .offload i signature args dim name code heap =>
    match signature.signature with
    | .error e => ({ reply := .fault e }, s)
    | .ok signature =>
      match Code.of code name with
      | .error e => ({ reply := .fault e }, s)
      | .ok code =>
        s.onBridge i (Bridge.offload ⟨code, signature, args, dim⟩ heap) fun _ => .done
  | .table sim =>
    match (((Resolver.simulated sim).attempt s.fleet 0).answers.link).1 with
    | .error e => ({ reply := .fault e }, s)
    | .ok t =>
      ({ reply := .table s.tables.size t.totalCores.isSome },
        { s with tables := s.tables.push ⟨t, .null⟩ })
  | .call i call =>
    match s.tables[i]? with
    | none => ({ reply := .absent }, s)
    | some t =>
      let ⟨fleet, held, seats, kernels, tables⟩ := s
      let ((reply, context), fleet) := call.run t fleet
      let tables :=
        match context with
        | some h => tables.setIfInBounds i { t with context := h }
        | none => tables
      ({ reply }, ⟨fleet, held, seats, kernels, tables⟩)

def journalSizes (s : Session) : Array Nat := s.fleet.cells.map fun c => c.state.journal.size

/-- The calls that held devices have received beyond the given counts. -/
def gained (s : Session) (before : Array Nat) : List (Nat × Call) :=
  (List.range s.held.size).flatMap fun sim =>
    if s.holds sim then
      let journal := s.fleet.journal sim
      (journal.extract (before[sim]?.getD 0) journal.size).toList.map fun call => (sim, call)
    else []

def step (s : Session) (st : Step) : Report × Session :=
  let before := s.journalSizes
  let (report, s') := s.perform st
  ({ report with calls := s'.gained before }, s')

def runAll (s : Session) : List Step → List Report
  | [] => []
  | st :: rest =>
    let (report, s') := s.step st
    report :: s'.runAll rest

end Offload.Session
