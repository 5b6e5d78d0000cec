import MvdEdge.App.LineRules
import MvdEdge.App.RunProperties

/-! The inventories of a process. The loop takes over what the reader answered, all of it
and in order, and dates each inventory by a reading of the clock of its own. -/

set_option autoImplicit false

namespace MvdEdge

open Lib Lib.Effect

/-- The scan that presence is told of. -/
def ScanRecord.scan? (record : ScanRecord) : Option Scan :=
  match record.inventory with
  | .ok ⟨.VALID, tags⟩ => some ⟨tags, record.now, record.mint⟩
  | _ => none

/-- The scans of a process, oldest first. -/
def World.scans (world : World) : List Scan := world.scanLog.reverse.filterMap (·.scan?)

/-- The operation before which the last inventory was taken over. -/
def lastTick (first : World) : List ScanRecord → Nat
  | [] => first.tick
  | record :: _ => record.tick

/-- A process that found `first` dated its inventories by readings of the clock, each after
the inventory before was taken over, and used the mints in their order. -/
def Dated (env : AgentEnv) (first : World) : List ScanRecord → Prop
  | [] => True
  | record :: past => record.mint = env.mint (first.updates + past.length) ∧
      (∃ tick, lastTick first past ≤ tick ∧ tick < record.tick ∧ record.now = env.clock tick) ∧
      Dated env first past

/-- A process that found `first` took over all that was answered to its inventories, but
for `unread`. -/
structure Surveyed (env : AgentEnv) (first : World) (unread : List InventoryResult)
    (world : World) : Prop where
  answered : (inventoryAnswers world.line.log).map classifyInventoryResponse =
    unread ++ world.scanLog.filterMap (·.inventory.toOption)
  dated : Dated env first world.scanLog
  latest : lastTick first world.scanLog ≤ world.tick
  updates : world.updates = first.updates + world.scanLog.length

/-- A process that may have been stopped before it took over its last inventory. -/
def Inventoried (env : AgentEnv) (first world : World) : Prop :=
  ∃ unread, unread.length ≤ 1 ∧ Surveyed env first unread world

/-- A reading of the clock since the last inventory was taken over. -/
def DatedBy (env : AgentEnv) (first : World) (now : Time) (world : World) : Prop :=
  ∃ tick, lastTick first world.scanLog ≤ tick ∧ tick < world.tick ∧ now = env.clock tick

/-- All that surveys are about. -/
def World.survey (world : World) :=
  ((inventoryAnswers world.line.log, world.scanLog), world.updates, world.tick)

section Surveys

variable {env : AgentEnv} {first world next : World} {unread : List InventoryResult} {now : Time}

theorem World.scans_cons (record : ScanRecord) (same : next.scanLog = record :: world.scanLog) :
    next.scans = world.scans ++ record.scan?.toList := by
  rw [World.scans, same, List.reverse_cons, List.filterMap_append, World.scans]
  cases found : record.scan? <;> simp [found]

theorem Surveyed.congr (surveyed : Surveyed env first unread world)
    (same : next.survey = world.survey) : Surveyed env first unread next := by
  have answers : inventoryAnswers next.line.log = inventoryAnswers world.line.log :=
    congrArg (·.1.1) same
  have scanLog : next.scanLog = world.scanLog := congrArg (·.1.2) same
  have updates : next.updates = world.updates := congrArg (·.2.1) same
  have tick : next.tick = world.tick := congrArg (·.2.2) same
  constructor
  · rw [answers, scanLog]
    exact surveyed.answered
  · rw [scanLog]
    exact surveyed.dated
  · rw [scanLog, tick]
    exact surveyed.latest
  · rw [updates, scanLog]
    exact surveyed.updates

theorem Surveyed.advance (surveyed : Surveyed env first unread world) :
    Surveyed env first unread (Ticking.advance world) :=
  { surveyed with latest := Nat.le_succ_of_le surveyed.latest }

theorem Surveyed.inventoried (surveyed : Surveyed env first [] world) :
    Inventoried env first world := ⟨[], Nat.zero_le 1, surveyed⟩

theorem DatedBy.congr (dated : DatedBy env first now world) (same : next.survey = world.survey) :
    DatedBy env first now next := by
  obtain ⟨tick, after, before, reading⟩ := dated
  have scanLog : next.scanLog = world.scanLog := congrArg (·.1.2) same
  have later : next.tick = world.tick := congrArg (·.2.2) same
  exact ⟨tick, scanLog ▸ after, later ▸ before, reading⟩

theorem DatedBy.advance (dated : DatedBy env first now world) :
    DatedBy env first now (Ticking.advance world) := by
  obtain ⟨tick, after, before, reading⟩ := dated
  exact ⟨tick, after, Nat.lt_succ_of_lt before, reading⟩

/-- The inventory that was answered last is taken over. -/
theorem Surveyed.taken {inventory : Except Str InventoryResult}
    (surveyed : Surveyed env first inventory.toOption.toList world)
    (dated : DatedBy env first now world) (presence : PresenceState) :
    Surveyed env first [] { world with
      presence
      updates := world.updates + 1
      scanLog := ⟨inventory, now, env.mint world.updates, world.tick⟩ :: world.scanLog } where
  answered := by
    rw [surveyed.answered]
    cases inventory <;> rfl
  dated := ⟨surveyed.updates ▸ rfl, dated, surveyed.dated⟩
  latest := le_rfl
  updates := congrArg (· + 1) surveyed.updates

theorem Surveyed.booted (config : EdgeConfig) (world : World) :
    Surveyed env world [] (world.boot config) :=
  ⟨rfl, trivial, le_rfl, rfl⟩

end Surveys

namespace Agent

section Surveying

variable {env : AgentEnv} {config : EdgeConfig} {first : World} {unread : List InventoryResult}
  {now : Time} {α : Type}

theorem surveyed_of_leaves {program : Agent α} (leaves : Leaves World.survey program) :
    Triple (Surveyed env first []) program (fun _ => Surveyed env first [])
      (fun _ => Inventoried env first) :=
  leaves.triple (fun _ _ same surveyed => surveyed.congr same)
    fun _ _ surveyed => surveyed.inventoried

theorem onDelivery_survey (program : Delivery α) : Leaves World.survey (onDelivery program) :=
  Leaves.zoom (fun _ _ => rfl) program

theorem onLine_survey {program : Serial α}
    (leaves : Leaves (fun line => inventoryAnswers line.log) program) :
    Leaves World.survey (onLine program) := by
  have frame : Leaves (fun world : World => (world.scanLog, world.updates, world.tick))
      (onLine program) := Leaves.zoom (fun _ _ => rfl) program
  intro shown world same
  refine (Leaves.pair (leaves.zoom_part World.linePart) frame _ world rfl).imp ?_ ?_
  · exact fun _ _ kept => (congrArg (fun both => ((both.1, both.2.1), both.2.2)) kept).trans same
  · exact fun _ _ kept => (congrArg (fun both => ((both.1, both.2.1), both.2.2)) kept).trans same

theorem quietly_surveyed {act : Nat → World → α × World}
    (same : ∀ tick world, (act tick world).2.survey = world.survey) :
    Triple (Surveyed env first []) (quietly env act) (fun _ => Surveyed env first [])
      (fun _ => Inventoried env first) :=
  Triple.operation_of_fault (fun _ surveyed => surveyed.advance.congr (same _ _))
    fun _ _ _ _ surveyed => surveyed.advance.inventoried

theorem mark_surveyed (change : HealthState → Timestamp → HealthState) :
    Triple (Surveyed env first []) (mark env change) (fun _ => Surveyed env first [])
      (fun _ => Inventoried env first) := quietly_surveyed fun _ _ => rfl

theorem surveyed_serves :
    Serves env config (Surveyed env first []) fun _ => Inventoried env first where
  tick := fun _ surveyed => surveyed.advance
  fault := fun _ _ _ _ surveyed => surveyed.advance.inventoried
  cut := fun _ surveyed => surveyed.inventoried
  delivery := fun _ _ surveyed => surveyed.congr rfl
  heartbeat := fun _ _ surveyed => surveyed.congr rfl
  slept := fun _ _ surveyed => surveyed.congr rfl
  pendingCount := surveyed_of_leaves (onDelivery_survey _)
  process := surveyed_of_leaves (onDelivery_survey _)

theorem surveyed_attends :
    Attends env config (Surveyed env first []) fun _ => Inventoried env first where
  reader := fun _ _ surveyed => surveyed.congr rfl
  survey := Triple.operation_of_fault (fun _ surveyed => surveyed.advance)
    fun _ _ _ _ surveyed => surveyed.advance.inventoried
  discover := fun _ => surveyed_of_leaves (onLine_survey fun shown =>
    discoverReaderPort_operates (answers_operates shown) _ _ _)
  created := fun _ => surveyed_of_leaves (onLine_survey (Leaves.update fun _ => rfl))
  verified := fun reader => surveyed_of_leaves (onLine_survey fun shown =>
    connectAndVerifyReader_operates (answers_operates shown) reader _)
  mark := mark_surveyed
  attempt := fun _ _ surveyed => surveyed.congr rfl
  readerState := fun _ _ surveyed => surveyed.congr rfl

theorem inventory_surveyed (reader : IDT85Reader) :
    Triple (Surveyed env first []) (attempt Exn.caught (onLine (reader.inventory env.line)))
      (fun inventory => Surveyed env first inventory.toOption.toList)
      (fun _ => Inventoried env first) := by
  have asked : Triple (Surveyed env first []) (onLine (reader.inventory env.line))
      (fun result => Surveyed env first [result]) (fun _ => Surveyed env first []) := by
    intro world surveyed
    have zoomed := Triple.zoom World.linePart
      (fun world => (world.scanLog, world.updates, world.tick)) (fun _ _ => rfl)
      (inventory_answers env.line reader (inventoryAnswers world.line.log))
      (· = (world.scanLog, world.updates, world.tick)) world ⟨rfl, rfl⟩
    refine zoomed.imp (fun result next both => ?_) fun _ next both => ?_
    · obtain ⟨⟨response, rfl, answers⟩, frame⟩ := both
      have before : Surveyed env first [] { next with line := world.line } :=
        surveyed.congr (congrArg (fun kept => ((_, kept.1), kept.2)) frame)
      refine { before with answered := ?_ }
      exact (congrArg (List.map _) answers).trans
        (congrArg (classifyInventoryResponse response :: ·) before.answered)
    · exact surveyed.congr
        (congrArg₂ (fun answers kept => ((answers, kept.1), kept.2)) both.1 both.2)
  refine Triple.attempt asked ?_ fun _ _ _ surveyed => surveyed.inventoried
  exact fun _ _ _ _ surveyed => surveyed

theorem inventoried_of_unread {inventory : Except Str InventoryResult} {world : World}
    (surveyed : Surveyed env first inventory.toOption.toList world) :
    Inventoried env first world := by
  refine ⟨_, ?_, surveyed⟩
  cases inventory <;> simp [Except.toOption]

/-- What was answered last, with the reading of the clock that dates it. -/
def Answered (env : AgentEnv) (first : World) (inventory : Except Str InventoryResult)
    (now : Time) (world : World) : Prop :=
  Surveyed env first inventory.toOption.toList world ∧ DatedBy env first now world

theorem time_answered (inventory : Except Str InventoryResult) :
    Triple (Surveyed env first inventory.toOption.toList) (time env)
      (fun now => Answered env first inventory now) (fun _ => Inventoried env first) := by
  unfold time quietly
  refine Triple.operation_of_fault (fun world surveyed => ?_) fun _ _ _ _ surveyed =>
    inventoried_of_unread surveyed.advance
  exact ⟨surveyed.advance, world.tick, surveyed.latest, Nat.lt_succ_self _, rfl⟩

theorem readInventory_surveyed (reader : IDT85Reader) :
    Triple (Surveyed env first []) (readInventory env config reader)
      (fun _ => Surveyed env first []) (fun _ => Inventoried env first) := by
  refine Triple.bind (quietly_surveyed fun _ _ => rfl) fun _ =>
    Triple.bind (inventory_surveyed reader) fun inventory =>
    Triple.bind (time_answered inventory) fun now =>
    Triple.through (fun _ => Answered env first inventory now)
      (Triple.operation_of_fault (fun world both => ⟨both.1.advance, both.2.advance⟩)
        fun _ _ _ _ both => inventoried_of_unread both.1.advance) fun read => ?_
  have closed : Triple (Answered env first inventory now) (onLine (reader.close env.line))
      (fun _ => Answered env first inventory now) (fun _ => Inventoried env first) :=
    (onLine_survey (close_answers reader)).triple
      (fun _ _ same both => ⟨both.1.congr same, both.2.congr same⟩)
      fun _ _ both => inventoried_of_unread both.1
  have absorbed : Triple (Answered env first inventory now) (absorb env reader inventory now read)
      (fun _ => Surveyed env first []) (fun _ => Inventoried env first) :=
    absorb_keeps closed fun _ both => (both.1.taken both.2 read.state).congr rfl
  exact Triple.bind absorbed fun _ => Triple.pure fun _ surveyed => surveyed

theorem cleanup_survey : Leaves World.survey (cleanup env) := by
  have closed : Leaves World.survey (closeReader env) :=
    fun shown => closeReader_keeps fun reader => onLine_survey (close_answers reader) shown
  exact Leaves.bind closed fun _ => onDelivery_survey _

theorem surveyed_conduct :
    Conduct env config (fun _ => Surveyed env first []) fun _ => Inventoried env first where
  serves := surveyed_serves
  send := sendHeartbeat_keeps (surveyed_of_leaves (onDelivery_survey _))
    (quietly_surveyed fun _ _ => rfl) (fun _ _ _ surveyed => surveyed.congr rfl)
    fun _ _ surveyed => surveyed.inventoried
  keeps := fun _ _ surveyed => surveyed.inventoried
  caught := fun _ inventoried => inventoried
  head := fun _ surveyed => surveyed.congr rfl
  reconnect := reconnectPhase_attends surveyed_attends
  scan := scanPhase_keeps (fun _ => Surveyed env first [])
    (fun _ _ _ surveyed => surveyed.congr rfl) (fun _ _ _ surveyed => surveyed.congr rfl)
    (fun _ _ => mark_surveyed _) (fun _ => quietly_surveyed fun _ _ => rfl)
    readInventory_surveyed
  enqueue := enqueueEvents_keeps (fun _ => Surveyed env first []) (fun _ => mark_surveyed _)
    (fun _ => quietly_surveyed fun _ _ => rfl)
    fun _ _ _ => surveyed_of_leaves (onDelivery_survey _)
  opened := surveyed_of_leaves (onDelivery_survey _)
  cleanup := fun _ => cleanup_survey.triple
    (fun _ _ same inventoried => inventoried.imp fun _ both => ⟨both.1, both.2.congr same⟩)
    fun _ _ inventoried => inventoried
  unsupported := fun _ _ surveyed => surveyed.inventoried

/-- Every process takes over what its reader answered, but perhaps for the last answer. -/
theorem runAgent_surveyed (env : AgentEnv) (config : EdgeConfig) (turns : Nat) (world : World) :
    Inventoried env world (after (runAgent env config turns) world) :=
  Triple.after (runAgent_conduct surveyed_conduct turns) (Surveyed.booted config world)

end Surveying

end Agent

end MvdEdge
