import LevelForge.Session.Action

/-!
# Running sessions

A session is a list of steps on named objects. A step that fails stores nothing under its name and
leaves the session usable; whatever it changed before it failed stays changed.

* `perform`: the effect of an action.
* `run`: the answers to the steps of a session.
-/

namespace LevelForge.Session

/-- A session in the middle of a step: the store, and what was reported so far. -/
structure Progress where
  store : Store := {}
  warnings : Array Warning := #[]

/-- An operation on a session, which may fail and keeps what it did before. -/
abbrev Operation := ExceptT Fault (StateM Progress)

namespace Operation

/-- Report warnings. -/
def warn (warnings : List Warning) : Operation Unit :=
  modify fun p => { p with warnings := p.warnings ++ warnings.toArray }

/-- Look at the store. -/
def look (f : Store → α) : Operation α := return f (← get).store

/-- Change the store. -/
def change (f : Store → Store) : Operation Unit :=
  modify fun p => { p with store := f p.store }

/-- Change the store and answer. -/
def allocate (f : Store → α × Store) : Operation α := do
  let (value, store) := f (← get).store
  modify fun p => { p with store }
  return value

/-- Answer with a result that may be a fault of some kind. -/
def lift (wrap : ε → Fault) : Except ε α → Operation α
  | .ok value => return value
  | .error fault => throw (wrap fault)

/-- Give an object a name, if there is one. -/
def store (name : Option String) (object : Object) : Operation Unit :=
  match name with
  | none => return
  | some name => change (·.name name object)

/-- The object of a name; no name names nothing. -/
def object? (name : Option String) : Operation (Option Object) := do
  match name with
  | none => return none
  | some name =>
    match (← get).store.objects.get? name with
    | none => throw .noObject
    | some object => return some object

/-- The object of a name. Nothing can be asked of nothing. -/
def object (name : Option String) : Operation Object := do
  match ← object? name with
  | none => throw .misuse
  | some object => return object

end Operation

open Operation

/-- The blueprint of a name. -/
def theBlueprint (name : Option String) : Operation BlueprintRef := do
  match ← object name with
  | .blueprint ref => return ref
  | _ => throw .misuse

/-- The spawner of a name. -/
def theSpawner (name : Option String) : Operation SpawnerRef := do
  match ← object name with
  | .spawner ref => return ref
  | _ => throw .misuse

/-- The plan of a name. -/
def thePlan (name : Option String) : Operation SharedPlan := do
  match ← object name with
  | .plan plan => return plan
  | _ => throw .misuse

/-- The play of a name. -/
def thePlay (name : Option String) : Operation SharedPlay := do
  match ← object name with
  | .play play => return play
  | _ => throw .misuse

/-- The catalog of a name. -/
def theCatalog (name : Option String) : Operation Catalog := do
  match ← object name with
  | .catalog catalog => return catalog
  | _ => throw .misuse

/-- The parser of a name. -/
def theParser (name : Option String) : Operation Ldl.Parser := do
  match ← object name with
  | .parser parser => return parser
  | _ => throw .misuse

/-- The segment of a name, with the blueprint its aliases come from. -/
def theSegment (name : Option String) : Operation (Segment × Option BlueprintRef) := do
  match ← object name with
  | .segment segment source => return (segment, source)
  | _ => throw .misuse

/-- Change the blueprint of a name. -/
def changeBlueprint (on : Option String)
    (f : Blueprint → Except Blueprint.Refusal Blueprint) : Operation Reply := do
  let ref ← theBlueprint on
  let b ← lift .refused (f (← look (·.blueprint ref)))
  change (·.setBlueprint ref b)
  return .done

/-- Change the spawner of a name. -/
def changeSpawner (on : Option String) (f : Spawner → Spawner) : Operation Reply := do
  let ref ← theSpawner on
  change fun s => s.setSpawner ref (f (s.spawner ref))
  return .done

/-- Let the spawner of a name do something that may report warnings. -/
def withSpawner (on : Option String) (f : Spawner → Spawner.Outcome α) : Operation α := do
  let ref ← theSpawner on
  let outcome := f (← look (·.spawner ref))
  change (·.setSpawner ref outcome.spawner)
  warn outcome.warnings
  return outcome.value

/-- Let the catalog of a name do something. -/
def withCatalog (on : Option String) (f : Catalog → α × Catalog) : Operation α := do
  let (value, catalog) := f (← theCatalog on)
  store on (.catalog catalog)
  return value

/-- Let the play of a name go on. -/
def withPlay (on : Option String) (f : Play → Except Level.Fault (α × Play)) : Operation α := do
  let shared ← thePlay on
  let (value, play) ← lift .level (f (← look (·.play shared)))
  if let some name := on then change (·.setPlay name shared play)
  return value

/-- Share the blueprint of a plan, name the plan and show it. -/
def storePlan (name : Option String) (plan : LevelPlan) : Operation Reply := do
  let ref ← allocate (·.addBlueprint plan.blueprint)
  store name (.plan ⟨plan.levelId, ref, plan.seed, plan.mode⟩)
  return .plan plan

/-- Name a segment and show it. -/
def storeSegment (name : Option String) (segment : Segment) (source : Option BlueprintRef) :
    Operation Reply := do
  store name (.segment segment source)
  return .fullSegment (some segment)

/-- Whether the object of a name and another object are alike. Parsers, spawners and catalogs are
alike only to themselves, and so is nothing. -/
def areAlike (on other : Option String) : Operation Bool := do
  let a ← object? on
  let b ← object? other
  let s ← look id
  match a, b with
  | some (.blueprint a), some (.blueprint b) => return (s.blueprint a).alike (s.blueprint b)
  | some (.schedule a _), some (.schedule b _) => return a.rules == b.rules
  | some (.segment a _), some (.segment b _) => return a.alike b
  | some (.spawner a), some (.spawner b) => return a == b
  | some (.plan a), some (.plan b) => return (s.plan a).alike (s.plan b)
  | some (.play a), some (.play b) => return a.plan.levelId == b.plan.levelId
  | some (.state a), some (.state b) =>
    if on == other then return true
    else if a.frontier == b.frontier && a.unitsBuilt == b.unitsBuilt &&
        a.lastUnitsBuilt == b.lastUnitsBuilt && a.cursor == b.cursor then
      throw .incomparableStates
    else return false
  | _, _ => return on == other

/-- The ids of levels in ascending order. -/
def sortedIds (names : List String) : Operation (List String) := do
  let levels ← names.mapM fun name => do
    match ← object (some name) with
    | .play play => return play.plan.levelId
    | _ => throw .unordered
  return levels.mergeSort fun a b => decide (a ≤ b)

/-- Build a play up to a column, and tell the elements kept meanwhile and what was reported. -/
def generate (play : Play) (target : Int) :
    Except Level.Fault ((List Element × List Warning) × Play) := do
  let kept (p : Play) : Array Element := (p.spawner.map (·.elements)).getD #[]
  let done ← play.generate target
  return (((kept done.play).toList.drop (kept play).size, done.warnings), done.play)

/-- The effect of an action on blueprints, parsers and boss schedules. -/
def performText (on name : Option String) : Action → Operation Reply
  | .newParser text => do
    store name (.parser (.ofText text))
    return .done
  | .parse target => do
    let parser ← theParser on
    match target with
    | none => lift .text (.error .noBlueprint)
    | some _ => do
      let ref ← theBlueprint target
      let reading := parser.parse (some (← look (·.blueprint ref)))
      store on (.parser reading.parser)
      if let some b := reading.blueprint then change (·.setBlueprint ref b)
      match reading.failure with
      | some failure => throw (.text failure)
      | none => return .done
  | .newBlueprint title => do
    let ref ← allocate (·.addBlueprint { name := title })
    store name (.blueprint ref)
    return .done
  | .compile text title => do
    let b ← lift .text (Ldl.compile text title)
    let ref ← allocate (·.addBlueprint b)
    store name (.blueprint ref)
    return .blueprint b
  | .setAlias key value => changeBlueprint on (·.setAlias key value)
  | .setSetting key value => changeBlueprint on (·.setSetting key value)
  | .addBoss key symbol => do
    match ← object on with
    | .schedule schedule aliases => do
      let schedule ← lift .schedule (schedule.insert key symbol)
      store on (.schedule schedule aliases)
      return .done
    | _ => changeBlueprint on (·.addBoss key symbol)
  | .addTemplate rows => do
    let template ← lift .ragged (Template.ofRows? rows)
    changeBlueprint on (·.addTemplate template)
  | .freeze => do
    match ← object on with
    | .schedule schedule aliases => do
      store on (.schedule schedule.freeze aliases)
      return .done
    | _ => changeBlueprint on (.ok ·.freeze)
  | .newSchedule aliases => do
    store name (.schedule .empty aliases)
    return .done
  | _ => throw .misuse

/-- The answers about blueprints and boss schedules. -/
def queryText (on name : Option String) : Action → Operation Reply
  | .dump => do
    let ref ← theBlueprint on
    return .blueprint (← look (·.blueprint ref))
  | .template index => do
    let ref ← theBlueprint on
    match (← look (·.blueprint ref)).template? index with
    | none => throw .noTemplate
    | some template => return .rows template.rows
  | .segment index => do
    let ref ← theBlueprint on
    match (← look (·.blueprint ref)).segment? index with
    | none => throw .noTemplate
    | some segment => storeSegment name segment (some ref)
  | .setting key otherwise => do
    let ref ← theBlueprint on
    return .text (((← look (·.blueprint ref)).setting? key).or otherwise)
  | .isSet key => do
    let ref ← theBlueprint on
    return .truth ((← look (·.blueprint ref)).isSet key)
  | .resolveAlias symbol => do
    let ref ← theBlueprint on
    return .text (some ((← look (·.blueprint ref)).resolveAlias symbol))
  | .nextBoss last units => do
    let (schedule, aliases) ←
      match ← object on with
      | .schedule schedule aliases => pure (schedule, aliases)
      | _ => do
        let ref ← theBlueprint on
        let b ← look (·.blueprint ref)
        pure (b.bosses, b.aliases)
    let rule ← lift .zeroInterval (schedule.next? last units)
    return .fullSegment (rule.map fun rule => .arena rule.symbol aliases)
  | .schedule => do
    match ← object on with
    | .schedule schedule _ => return .schedule schedule
    | _ => do
      let ref ← theBlueprint on
      return .schedule (← look (·.blueprint ref)).bosses
  | .describe => do
    let s ← look id
    match ← object? on with
    | none => return .text (some "None")
    | some (.blueprint ref) => return .text (some (s.blueprint ref).describe)
    | some (.segment segment _) => return .text (some segment.describe)
    | some (.play play) => return .text (some (s.play play).level.describe)
    | _ => throw .misuse
  | .equal other => return .truth (← areAlike on other)
  | _ => throw .misuse

/-- The effect of an action on segments and spawners. -/
def performSpawning (on name : Option String) : Action → Operation Reply
  | .newSegment rows aliases kind index => do
    let template ← lift .ragged (Template.ofRows? rows)
    storeSegment name { template, aliases, kind, index } none
  | .builtIn which aliases => storeSegment name (which.segment aliases) none
  | .setGap width => do
    let (segment, source) ← theSegment on
    let segment ← lift .gap (segment.withGap width)
    store on (.segment segment source)
    return .segment segment
  | .build spawner x coins seed => do
    let (segment, source) ← theSegment on
    let segment ← look (·.segment segment source)
    let before := (← look (·.spawner (← theSpawner spawner))).elements.size
    let width ← withSpawner spawner (·.build segment x coins (seed.map .ofSeed))
    let elements := (← look (·.spawner (← theSpawner spawner))).elements
    return .built width (elements.toList.drop before)
  | .newSpawner registry groups worldHeight seed record listen => do
    let spawner := Spawner.create (registry.getD Spawner.standardRegistry)
      (groups.getD Spawner.standardGroups) worldHeight (.ofSeed seed) record listen
    let ref ← allocate (·.addSpawner spawner)
    store name (.spawner ref)
    return .spawnerKey spawner.key
  | .register symbol maker => changeSpawner on (·.register symbol maker)
  | .registerGroup group members => changeSpawner on (·.registerGroup group members)
  | .reseed seed => changeSpawner on (·.reseed (.ofSeed seed))
  | .clear => changeSpawner on (·.clear)
  | .resolve symbols => return .texts (← withSpawner on (·.resolveAll symbols))
  | .place placement => return .element (← withSpawner on (·.place placement))
  | .spawnerState => do
    let ref ← theSpawner on
    return .spawner (← look (·.spawner ref))
  | .received => do
    let ref ← theSpawner on
    return .elements (((← look (·.spawner ref)).sink.getD #[]).toList)
  | _ => throw .misuse

/-- The effect of an action on plans and levels. -/
def performLevel (on name : Option String) : Action → Operation Reply
  | .newPlan (.text text) levelId seed mode => do
    storePlan name (← lift .text (LevelPlan.ofText text levelId seed mode))
  | .newPlan (.blueprint blueprint) levelId seed mode => do
    let ref ← theBlueprint blueprint
    let plan : SharedPlan := ⟨levelId, ref, seed, mode⟩
    store name (.plan plan)
    return .plan (← look (·.plan plan))
  | .newLevel none _ => throw .noPlan
  | .newLevel plan spawner => do
    let plan ← thePlan plan
    let ref ←
      match spawner with
      | none => pure none
      | some _ => some <$> theSpawner spawner
    let s ← look id
    let play := Play.start (s.plan plan) (ref.map s.spawner)
    if let (some ref, some spawner) := (ref, play.spawner) then change (·.setSpawner ref spawner)
    store name (.play ⟨plan, ref, play.level.state⟩)
    return .level play.level
  | .next times => return .segments (← withPlay on (·.handOut times))
  | .iterate limit => do
    let limit ← lift .limit (Play.limitOf limit)
    let segments ← withPlay on (·.take limit)
    return .segments (segments.map some)
  | .generate target => do
    let (elements, warnings) ← withPlay on (generate · target)
    warn warnings
    return .elements elements
  | .gap => return .number (← withPlay on fun play => .ok play.nextGap)
  | .rewind => withPlay on fun play => .ok (.done, play.rewind)
  | .compare other => do
    match ← object? on, ← object? other with
    | some (.play a), some (.play b) =>
      return .comparison
        { equal := a.plan.levelId == b.plan.levelId
          less := decide (a.plan.levelId < b.plan.levelId) }
    | _, _ => throw .unordered
  | .sort names => return .texts (← sortedIds names)
  | .nextLevel catalog => do
    let play ← thePlay on
    let plan ← look (·.plan play.plan)
    return .text (← withCatalog catalog (·.successor plan))
  | .newState seed key => do
    let state := LevelState.start (key.getD (.ofSeed seed))
    store name (.state state)
    return .state state
  | .draw stream times => do
    match ← object on with
    | .state state => do
      let (state, keys) := state.drawMany stream times
      store on (.state state)
      return .drawn keys state
    | _ => throw .misuse
  | _ => throw .misuse

/-- The effect of an action on catalogs. -/
def performCatalog (on name : Option String) : Action → Operation Reply
  | .newCatalog texts => do
    store name (.catalog (.ofTexts texts))
    return .done
  | .openDirectory entries => do
    let catalog ← lift .encoding (Catalog.ofDirectory entries)
    store name (.catalog catalog)
    return .texts catalog.ids
  | .addText levelId text => do
    withCatalog on fun catalog => (.done, catalog.add levelId text)
  | .ids => withCatalog on fun catalog => (.texts catalog.ids, catalog)
  | .available => return .texts (← withCatalog on (·.available))
  | .groups => return .groups (← withCatalog on (·.groups))
  | .catalogBlueprint levelId => do
    return .blueprint (← lift .unavailable (← withCatalog on (·.blueprint levelId)))
  | .load levelId seed mode => do
    storePlan name (← lift .unavailable (← withCatalog on (·.load levelId seed mode)))
  | .daily levelId year month day => do
    let day ← lift .day (Day.ofParts year month day)
    storePlan name (← lift .unavailable (← withCatalog on (·.daily levelId day)))
  | .successor plan => do
    let plan ← thePlan plan
    let plan ← look (·.plan plan)
    return .text (← withCatalog on (·.successor plan))
  | _ => throw .misuse

/-- The effect of an action. -/
def perform (on name : Option String) (action : Action) : Operation Reply :=
  match action with
  | .newParser .. | .parse .. | .newBlueprint .. | .compile .. | .setAlias .. | .setSetting ..
  | .addBoss .. | .addTemplate .. | .freeze | .newSchedule .. => performText on name action
  | .dump | .template .. | .segment .. | .setting .. | .isSet .. | .resolveAlias .. | .describe
  | .equal .. | .nextBoss .. | .schedule => queryText on name action
  | .newSegment .. | .builtIn .. | .setGap .. | .build .. | .newSpawner .. | .register ..
  | .registerGroup .. | .reseed .. | .clear | .resolve .. | .place .. | .spawnerState
  | .received => performSpawning on name action
  | .newPlan .. | .newLevel .. | .next .. | .iterate .. | .generate .. | .gap | .rewind
  | .compare .. | .sort .. | .nextLevel .. | .newState .. | .draw .. =>
    performLevel on name action
  | .newCatalog .. | .openDirectory .. | .addText .. | .ids | .available | .groups
  | .catalogBlueprint .. | .load .. | .daily .. | .successor .. => performCatalog on name action

/-- The answer to a step. -/
structure Answer where
  -- the reply, or why there is none
  reply : Except Fault Reply
  warnings : List Warning := []
  -- the level the step worked on, as it is afterwards
  level : Option Level := none

/-- The level of a name, if the name is one of a level. -/
def levelOf? (s : Store) (name : Option String) : Option Level := do
  match ← s.objects.get? (← name) with
  | .play play => some (s.play play).level
  | _ => none

/-- Carry out a step. A step that names an object that does not exist does nothing. -/
def step (s : Store) (step : Step) : Answer × Store :=
  let named := step.on.toList ++ step.action.mentions
  if named.all s.objects.contains then
    let (reply, progress) := (perform step.on step.name step.action).run { store := s }
    ({ reply, warnings := progress.warnings.toList, level := levelOf? progress.store step.on },
      progress.store)
  else ({ reply := .error .noObject }, s)

/-- The answers to the steps of a session. -/
def run (s : Store) : List Step → List Answer
  | [] => []
  | first :: rest =>
    let (answer, s') := step s first
    answer :: run s' rest

end LevelForge.Session
