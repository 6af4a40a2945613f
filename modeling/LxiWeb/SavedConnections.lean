import Mathlib.Data.List.Nodup
import LxiWeb.EventRuns
import LxiWeb.JsNumbers

/-! The address book of the browser: its rows, the calls that change them and the stored form that the
next page load reads. The store writes the rows out after every change. -/
namespace LxiWeb.SavedConnections
open EventRuns JsNumbers JsText

/- A patch can leave undefined where a row has its host, its port and its label. -/
structure SavedConnection (F : Type) where
  id : String
  host : Option String
  port : Option F
  label : Option String
  autoConnect : Bool
  lastConnectedAt : Option F
  deriving DecidableEq

/- `Partial<Omit<SavedConnection, "id">>`. A field that is there may be undefined, or `null` the time. -/
structure Patch (F : Type) where
  host : Option (Option String) := none
  port : Option (Option F) := none
  label : Option (Option String) := none
  autoConnect : Option (Option Bool) := none
  lastConnectedAt : Option (Option F) := none
  deriving DecidableEq

structure Input (F : Type) where
  host : String
  port : F
  label : Option String
  autoConnect : Option Bool
  deriving DecidableEq

structure TypeError where
  message : String
  deriving DecidableEq, Repr

section
variable {F : Type} (num : Numbers F) (toLowerCase : String → String)

def validPort (port : F) : Bool :=
  num.isInteger port && num.lt (num.ofInt 0) port && num.le port (num.ofInt 65535)

def isValid (entry : Json F) : Bool :=
  ((entry.field "id").bind Json.asText).isSome && ((entry.field "host").bind Json.asText).isSome &&
    ((entry.field "port").bind Json.asNumber).any (validPort num)

/- The fields as `typeof` finds them: a label that is no text is `none`, as is a time that is no number. -/
def normalize (id : String) (host : Option String) (port : Option F) (label : Option String)
    (autoConnect : Bool) (lastConnectedAt : Option F) : SavedConnection F :=
  { id, host, port
    label := if label.isSome ∧ label ≠ some "" then label else host
    autoConnect, lastConnectedAt }

def normalizeJson (entry : Json F) : SavedConnection F :=
  normalize (((entry.field "id").bind Json.asText).getD "") ((entry.field "host").bind Json.asText)
    ((entry.field "port").bind Json.asNumber) ((entry.field "label").bind Json.asText)
    (((entry.field "autoConnect").map (Json.truthy num)).getD false)
    ((entry.field "lastConnectedAt").bind Json.asNumber)

/- `stored` is what `JSON.parse` makes of the item, if there is one that it can read. -/
def load (stored : Option (Json F)) : List (SavedConnection F) :=
  match stored with
  | none => []
  | some parsed =>
    if ((parsed.field "version").bind Json.asNumber).any fun v => num.same v (num.ofInt 1) then
      match parsed.field "entries" with
      | some (.array items) => (items.filter (isValid num)).map (normalizeJson num)
      | _ => []
    else []

-- `JSON.stringify` of a number, where −0 is 0
def jsonNumber (n : F) : Json F := if num.isFinite n then .number n else .null

/- What is undefined `JSON.stringify` leaves out. -/
def toJson (entry : SavedConnection F) : Json F :=
  .object ([("id",.text entry.id)] ++ (entry.host.map fun host => ("host",Json.text host)).toList ++
    (entry.port.map fun port => ("port",jsonNumber num port)).toList ++
    (entry.label.map fun label => ("label",Json.text label)).toList ++
    [("autoConnect",.bool entry.autoConnect),
      ("lastConnectedAt",(entry.lastConnectedAt.map (jsonNumber num)).getD .null)])

def persist (entries : List (SavedConnection F)) : Json F :=
  .object [("version",.number (num.ofInt 1)),("entries",.array (entries.map (toJson num)))]

def addressKey (host : String) (port : Option F) : String :=
  toLowerCase host ++ ":" ++ (port.map num.text).getD "undefined"

/- `none` stands for the error that lower-casing an undefined host is. -/
def keyOf (entry : SavedConnection F) : Option String :=
  entry.host.map fun host => addressKey num toLowerCase host entry.port

def findByAddress (entries : List (SavedConnection F)) (host : String) (port : F) :
    Except TypeError (Option (SavedConnection F)) :=
  match entries with
  | [] => .ok none
  | e :: rest =>
    match keyOf num toLowerCase e with
    | none => .error ⟨"Cannot read properties of undefined (reading 'toLowerCase')"⟩
    | some key =>
      if key = addressKey num toLowerCase host (some port) then .ok (some e)
      else findByAddress rest host port

def trimmed (text : String) : String := String.ofList (trim text.toList)

/- `id` is what `generateId` gives. -/
def add (entries : List (SavedConnection F)) (id : String) (input : Input F) :
    Except TypeError (SavedConnection F × List (SavedConnection F)) := do
  let host := trimmed input.host
  match ← findByAddress num toLowerCase entries host input.port with
  | some existing => pure (existing,entries)
  | none =>
    let label := (input.label.map trimmed).getD ""
    let entry : SavedConnection F :=
      { id, host := some host, port := some input.port
        label := some (if label ≠ "" then label else host)
        autoConnect := input.autoConnect.getD false, lastConnectedAt := none }
    pure (entry,entries ++ [entry])

def remove (entries : List (SavedConnection F)) (id : String) : List (SavedConnection F) :=
  entries.filter fun e => e.id ≠ id

def patched (patch : Patch F) (e : SavedConnection F) : SavedConnection F :=
  normalize e.id (patch.host.getD e.host) (patch.port.getD e.port) (patch.label.getD e.label)
    ((patch.autoConnect.getD (some e.autoConnect)).getD false) (patch.lastConnectedAt.getD e.lastConnectedAt)

def update (entries : List (SavedConnection F)) (id : String) (patch : Patch F) :
    List (SavedConnection F) :=
  entries.map fun e => if e.id ≠ id then e else patched patch e

def setAutoConnect (entries : List (SavedConnection F)) (id : String) (value : Bool) :
    List (SavedConnection F) :=
  update entries id { autoConnect := some (some value) }

def markConnected (entries : List (SavedConnection F)) (id host : String) (port at_ : F) :
    Except TypeError (List (SavedConnection F)) := do
  match ← findByAddress num toLowerCase entries host port with
  | some existing => pure (update entries existing.id { lastConnectedAt := some (some at_) })
  | none =>
    pure (entries ++ [{
      id, host := some host, port := some port, label := some host, autoConnect := false
      lastConnectedAt := some at_ }])

/- The id of `add` and `markConnected` is the one generated for a row that is not there yet. -/
inductive Event (F : Type) where
  | add (id : String) (input : Input F)
  | remove (id : String)
  | update (id : String) (patch : Patch F)
  | setAutoConnect (id : String) (value : Bool)
  | markConnected (id host : String) (port at_ : F)

def step (entries : List (SavedConnection F)) : Event F → List (SavedConnection F)
  | .add id input =>
    match add num toLowerCase entries id input with
    | .ok (_,entries) => entries
    | .error _ => entries
  | .remove id => remove entries id
  | .update id patch => update entries id patch
  | .setAutoConnect id value => setAutoConnect entries id value
  | .markConnected id host port at_ =>
    match markConnected num toLowerCase entries id host port at_ with
    | .ok entries => entries
    | .error _ => entries

structure Stays (entries : List (SavedConnection F)) : Prop where
  ids : (entries.map SavedConnection.id).Nodup
  keys : (entries.map (keyOf num toLowerCase)).Nodup
  reloaded : load num (some (persist num entries)) = entries

def Addable (entries : List (SavedConnection F)) (id host : String) (port : F) : Prop :=
  (∃ e ∈ entries, keyOf num toLowerCase e = some (addressKey num toLowerCase host (some port))) ∨
    id ∉ entries.map SavedConnection.id ∧ validPort num port

/- Row `e` can be patched: what the patch sets is defined and can be stored, and no other row has the
address. -/
structure Patchable (entries : List (SavedConnection F)) (e : SavedConnection F) (patch : Patch F) : Prop where
  host : patch.host ≠ some none
  port : ∀ port, patch.port = some port → port.any (validPort num)
  time : ∀ time, patch.lastConnectedAt = some (some time) → num.isFinite time
  free : ∀ other ∈ entries, other.id ≠ e.id → keyOf num toLowerCase other ≠
    (patch.host.getD e.host).map fun host => addressKey num toLowerCase host (patch.port.getD e.port)

def Fits (entries : List (SavedConnection F)) : Event F → Prop
  | .add id input => Addable num toLowerCase entries id (trimmed input.host) input.port
  | .remove _ => True
  | .update id patch => ∀ e ∈ entries, e.id = id → Patchable num toLowerCase entries e patch
  | .setAutoConnect _ _ => True
  | .markConnected id host port at_ =>
    num.isFinite at_ ∧ Addable num toLowerCase entries id host port

/- What is used of the runtime's numbers: `1 === 1`, and an integer is finite. -/
structure Regular : Prop where
  one : num.same (num.ofInt 1) (num.ofInt 1) = true
  whole : ∀ n, num.isInteger n = true → num.isFinite n = true

end

section
variable {F : Type} {num : Numbers F} {toLowerCase : String → String}

def reload (num : Numbers F) (e : SavedConnection F) : Option (SavedConnection F) :=
  if isValid num (toJson num e) then some (normalizeJson num (toJson num e)) else none

structure Storable (num : Numbers F) (e : SavedConnection F) : Prop where
  host : e.host.isSome
  port : ∃ port, e.port = some port ∧ validPort num port
  label : e.label = if e.label.isSome ∧ e.label ≠ some "" then e.label else e.host
  time : ∀ time, e.lastConnectedAt = some time → num.isFinite time

section
variable (e : SavedConnection F)

theorem idStored : (toJson num e).field "id" = some (.text e.id) := by
  obtain ⟨id,_ | host,_ | port,_ | label,autoConnect,time⟩ := e <;> rfl

theorem hostStored : (toJson num e).field "host" = e.host.map Json.text := by
  obtain ⟨id,_ | host,_ | port,_ | label,autoConnect,time⟩ := e <;> rfl

theorem portStored : (toJson num e).field "port" = e.port.map (jsonNumber num) := by
  obtain ⟨id,_ | host,_ | port,_ | label,autoConnect,time⟩ := e <;> rfl

theorem labelStored : (toJson num e).field "label" = e.label.map Json.text := by
  obtain ⟨id,_ | host,_ | port,_ | label,autoConnect,time⟩ := e <;> rfl

theorem autoConnectStored : (toJson num e).field "autoConnect" = some (.bool e.autoConnect) := by
  obtain ⟨id,_ | host,_ | port,_ | label,autoConnect,time⟩ := e <;> rfl

theorem timeStored : (toJson num e).field "lastConnectedAt" =
    some ((e.lastConnectedAt.map (jsonNumber num)).getD .null) := by
  obtain ⟨id,_ | host,_ | port,_ | label,autoConnect,time⟩ := e <;> rfl

theorem textRead (text : Option String) : (text.map (Json.text (F := F))).bind Json.asText = text := by
  cases text <;> rfl

theorem numberRead (n : Option F) : (n.map (jsonNumber num)).bind Json.asNumber = n.filter num.isFinite := by
  cases n with
  | none => rfl
  | some n => cases finite : num.isFinite n <;> simp [jsonNumber,finite,Json.asNumber,Option.filter]

theorem timeRead (n : Option F) :
    ((n.map (jsonNumber num)).getD .null).asNumber = n.filter num.isFinite := by
  rw [← numberRead]
  cases n <;> rfl

theorem reloadRow : reload num e =
    if e.host.isSome ∧ (e.port.filter num.isFinite).any (validPort num) then
      some (normalize e.id e.host (e.port.filter num.isFinite) e.label e.autoConnect
        (e.lastConnectedAt.filter num.isFinite))
    else none := by
  unfold reload isValid normalizeJson
  rw [idStored,hostStored,portStored,labelStored,autoConnectStored,timeStored]
  simp only [textRead,numberRead,Option.bind_some,timeRead,Json.asText,Option.isSome_some,Bool.true_and,
    Bool.and_eq_true,Option.getD_some,Option.map_some,Json.truthy]

end

theorem filterSame {n : Option F} : n.filter num.isFinite = n ↔ ∀ t, n = some t → num.isFinite t := by
  cases n <;> simp

theorem reloadStorable (regular : Regular num) (e : SavedConnection F) :
    reload num e = some e ↔ Storable num e := by
  rw [reloadRow]
  constructor
  · intro same
    split at same
    · rename_i valid
      have rows := Option.some.inj same
      have port := congrArg SavedConnection.port rows
      have time := congrArg SavedConnection.lastConnectedAt rows
      have label := congrArg SavedConnection.label rows
      simp only [normalize] at port time label
      rw [port] at valid
      obtain ⟨port,there,ok⟩ := (Option.any_eq_true _ _).mp valid.2
      exact ⟨valid.1,⟨port,there,ok⟩,label.symm,filterSame.mp time⟩
    · cases same
  · rintro ⟨host,⟨port,there,valid⟩,label,time⟩
    have whole : num.isInteger port = true := by
      simp only [validPort,Bool.and_eq_true] at valid
      exact valid.1.1
    have finite : e.port.filter num.isFinite = e.port := filterSame.mpr fun t same => by
      rw [there] at same
      cases same
      exact regular.whole port whole
    rw [finite,filterSame.mpr time,if_pos ⟨host,by rw [there]; exact valid⟩,normalize,← label]

theorem filterMapSame {A : Type} {f : A → Option A} (l : List A) :
    l.filterMap f = l ↔ ∀ a ∈ l, f a = some a := by
  induction l with
  | nil => simp
  | cons a rest ih =>
    rw [List.forall_mem_cons,← ih]
    cases there : f a with
    | none =>
      have short := List.length_filterMap_le f rest
      rw [List.filterMap_cons_none there]
      constructor
      · intro same
        rw [same,List.length_cons] at short
        omega
      · rintro ⟨same,_⟩
        cases same
    | some b => rw [List.filterMap_cons_some there,List.cons.injEq,Option.some.injEq]

theorem loadPersist (regular : Regular num) (entries : List (SavedConnection F)) :
    load num (some (persist num entries)) = entries.filterMap (reload num) := by
  have read : load num (some (persist num entries)) =
      ((entries.map (toJson num)).filter (isValid num)).map (normalizeJson num) := by
    simp [load,persist,Json.field,Json.asNumber,regular.one]
  rw [read]
  clear read
  induction entries with
  | nil => rfl
  | cons e rest ih =>
    rw [List.map_cons,List.filter_cons]
    cases valid : isValid num (toJson num e) with
    | true =>
      have kept : reload num e = some (normalizeJson num (toJson num e)) := if_pos valid
      rw [if_pos rfl,List.map_cons,ih,List.filterMap_cons_some kept]
    | false =>
      have dropped : reload num e = none := if_neg (by simp [valid])
      rw [if_neg Bool.false_ne_true,ih,List.filterMap_cons_none dropped]

structure Sound (num : Numbers F) (toLowerCase : String → String) (entries : List (SavedConnection F)) : Prop where
  ids : (entries.map SavedConnection.id).Nodup
  keys : (entries.map (keyOf num toLowerCase)).Nodup
  storable : ∀ e ∈ entries, Storable num e

theorem staysSound (regular : Regular num) (entries : List (SavedConnection F)) :
    Stays num toLowerCase entries ↔ Sound num toLowerCase entries := by
  have rows : load num (some (persist num entries)) = entries ↔ ∀ e ∈ entries, Storable num e := by
    rw [loadPersist regular,filterMapSame]
    exact forall₂_congr fun e _ => reloadStorable regular e
  constructor
  · rintro ⟨ids,keys,reloaded⟩
    exact ⟨ids,keys,rows.mp reloaded⟩
  · rintro ⟨ids,keys,storable⟩
    exact ⟨ids,keys,rows.mpr storable⟩

theorem foundByAddress {entries : List (SavedConnection F)} (storable : ∀ e ∈ entries, Storable num e)
    (host : String) (port : F) :
    findByAddress num toLowerCase entries host port = .ok (entries.find? fun e =>
      keyOf num toLowerCase e = some (addressKey num toLowerCase host (some port))) := by
  induction entries with
  | nil => rfl
  | cons e rest ih =>
    have later := ih fun e' member => storable e' (List.mem_cons_of_mem _ member)
    obtain ⟨own,there⟩ := Option.isSome_iff_exists.mp (storable e List.mem_cons_self).host
    have key : keyOf num toLowerCase e = some (addressKey num toLowerCase own e.port) := by
      rw [keyOf,there,Option.map_some]
    rw [findByAddress,key,List.find?_cons,key,later]
    simp only [Option.some.injEq]
    split
    · rename_i same
      simp [same]
    · rename_i other
      simp [other]

theorem soundRemoved {entries : List (SavedConnection F)} (sound : Sound num toLowerCase entries) (id : String) :
    Sound num toLowerCase (remove entries id) where
  ids := sound.ids.sublist (List.filter_sublist.map _)
  keys := sound.keys.sublist (List.filter_sublist.map _)
  storable e member := sound.storable e (List.mem_of_mem_filter member)

theorem soundAdded {entries : List (SavedConnection F)} (sound : Sound num toLowerCase entries)
    (e : SavedConnection F) (free : keyOf num toLowerCase e ∉ entries.map (keyOf num toLowerCase)) :
    Sound num toLowerCase (entries ++ [e]) ↔ e.id ∉ entries.map SavedConnection.id ∧ Storable num e := by
  have joined {A : Type} (f : SavedConnection F → A) (nodup : (entries.map f).Nodup) :
      ((entries ++ [e]).map f).Nodup ↔ f e ∉ entries.map f := by
    rw [List.map_append,List.map_singleton,List.nodup_append]
    constructor
    · rintro ⟨_,_,apart⟩ member
      exact apart _ member _ (List.mem_singleton_self _) rfl
    · intro fresh
      refine ⟨nodup,List.pairwise_singleton _ _,?_⟩
      rintro k member k' new rfl
      rw [List.mem_singleton.mp new] at member
      exact fresh member
  constructor
  · rintro ⟨ids,_,storable⟩
    exact ⟨(joined _ sound.ids).mp ids,storable e (List.mem_append_right _ (List.mem_singleton_self e))⟩
  · rintro ⟨fresh,own⟩
    refine ⟨(joined _ sound.ids).mpr fresh,(joined _ sound.keys).mpr free,fun e' member => ?_⟩
    rcases List.mem_append.mp member with before | new
    · exact sound.storable e' before
    · rw [List.mem_singleton.mp new]
      exact own

theorem storablePatched {e : SavedConnection F} (own : Storable num e) (patch : Patch F) :
    Storable num (patched patch e) ↔ patch.host ≠ some none ∧
      (∀ port, patch.port = some port → port.any (validPort num)) ∧
      ∀ time, patch.lastConnectedAt = some (some time) → num.isFinite time := by
  have host : (patched patch e).host.isSome ↔ patch.host ≠ some none := by
    show (patch.host.getD e.host).isSome ↔ _
    cases patch.host with
    | none => simpa using own.host
    | some host => cases host <;> simp
  have port : (∃ port, (patched patch e).port = some port ∧ validPort num port) ↔
      ∀ port, patch.port = some port → port.any (validPort num) := by
    show (∃ port, patch.port.getD e.port = some port ∧ validPort num port) ↔ _
    cases patch.port with
    | none => simpa using own.port
    | some port => cases port <;> simp
  have time : (∀ time, (patched patch e).lastConnectedAt = some time → num.isFinite time) ↔
      ∀ time, patch.lastConnectedAt = some (some time) → num.isFinite time := by
    show (∀ time, patch.lastConnectedAt.getD e.lastConnectedAt = some time → num.isFinite time) ↔ _
    cases patch.lastConnectedAt with
    | none => simpa using own.time
    | some time => simp
  have label : (patched patch e).label = if (patched patch e).label.isSome ∧ (patched patch e).label ≠ some ""
      then (patched patch e).label else (patched patch e).host := by
    simp only [patched,normalize]
    split
    · rfl
    · exact (ite_self _).symm
  rw [← host,← port,← time]
  constructor
  · rintro ⟨host,port,_,time⟩
    exact ⟨host,port,time⟩
  · rintro ⟨host,port,time⟩
    exact ⟨host,port,label,time⟩

theorem soundReplaced {before after : List (SavedConnection F)} {e : SavedConnection F}
    (sound : Sound num toLowerCase (before ++ e :: after)) {e' : SavedConnection F} (same : e'.id = e.id) :
    Sound num toLowerCase (before ++ e' :: after) ↔
      Storable num e' ∧ keyOf num toLowerCase e' ∉ (before ++ after).map (keyOf num toLowerCase) := by
  have keys := sound.keys
  rw [List.map_append,List.map_cons,List.nodup_middle,← List.map_append,List.nodup_cons] at keys
  constructor
  · rintro ⟨_,keys',storable⟩
    rw [List.map_append,List.map_cons,List.nodup_middle,← List.map_append,List.nodup_cons] at keys'
    exact ⟨storable e' (List.mem_append_right _ List.mem_cons_self),keys'.1⟩
  · rintro ⟨own,free⟩
    refine ⟨?_,?_,fun x member => ?_⟩
    · have ids := sound.ids
      rw [List.map_append,List.map_cons] at ids ⊢
      rwa [same]
    · rw [List.map_append,List.map_cons,List.nodup_middle,← List.map_append,List.nodup_cons]
      exact ⟨free,keys.2⟩
    · rcases List.mem_cons.mp (List.perm_middle.mem_iff.mp member) with rfl | other
      · exact own
      · exact sound.storable x (List.perm_middle.mem_iff.mpr (List.mem_cons_of_mem _ other))

theorem updateElsewhere {entries : List (SavedConnection F)} {id : String} (elsewhere : ∀ e ∈ entries, e.id ≠ id)
    (patch : Patch F) : update entries id patch = entries := by
  have same : (entries.map fun e => if e.id ≠ id then e else patched patch e) = entries.map fun e => e :=
    List.map_congr_left fun e member => if_pos (elsewhere e member)
  rw [update,same,List.map_id']

section
variable {before after : List (SavedConnection F)} {e : SavedConnection F}

theorem otherIds (ids : ((before ++ e :: after).map SavedConnection.id).Nodup) (x : SavedConnection F)
    (other : x ∈ before ++ after) : x.id ≠ e.id := by
  rw [List.map_append,List.map_cons,List.nodup_middle,← List.map_append,List.nodup_cons] at ids
  exact fun same => ids.1 (same ▸ List.mem_map_of_mem other)

theorem updateMiddle (ids : ((before ++ e :: after).map SavedConnection.id).Nodup) (patch : Patch F) :
    update (before ++ e :: after) e.id patch = before ++ patched patch e :: after := by
  have first := updateElsewhere (fun x member => otherIds ids x (List.mem_append_left _ member)) patch
  have last := updateElsewhere (fun x member => otherIds ids x (List.mem_append_right _ member)) patch
  rw [update] at first last
  rw [update,List.map_append,List.map_cons,if_neg (not_not.mpr rfl),first,last]

variable (num toLowerCase) in
theorem keyElsewhere (ids : ((before ++ e :: after).map SavedConnection.id).Nodup) (key : Option String) :
    key ∉ (before ++ after).map (keyOf num toLowerCase) ↔
      ∀ other ∈ before ++ e :: after, other.id ≠ e.id → keyOf num toLowerCase other ≠ key := by
  constructor
  · intro apart other member different same
    rcases List.mem_cons.mp (List.perm_middle.mem_iff.mp member) with rfl | elsewhere
    · exact different rfl
    · exact apart (same ▸ List.mem_map_of_mem elsewhere)
  · intro apart taken
    obtain ⟨other,elsewhere,same⟩ := List.mem_map.mp taken
    have member := List.perm_middle.mem_iff.mpr (List.mem_cons_of_mem e elsewhere)
    exact apart other member (otherIds ids other elsewhere) same

end

theorem soundUpdated {entries : List (SavedConnection F)} (sound : Sound num toLowerCase entries) (id : String)
    (patch : Patch F) : Sound num toLowerCase (update entries id patch) ↔
      ∀ e ∈ entries, e.id = id → Patchable num toLowerCase entries e patch := by
  by_cases there : ∃ e ∈ entries, e.id = id
  · obtain ⟨e,member,rfl⟩ := there
    obtain ⟨before,after,rfl⟩ := List.append_of_mem member
    have only : (∀ x ∈ before ++ e :: after, x.id = e.id →
        Patchable num toLowerCase (before ++ e :: after) x patch) ↔
          Patchable num toLowerCase (before ++ e :: after) e patch := by
      constructor
      · exact fun all => all e member rfl
      · intro own x member' same
        obtain rfl := List.inj_on_of_nodup_map sound.ids member' member same
        exact own
    have same : (patched patch e).id = e.id := rfl
    rw [updateMiddle sound.ids,soundReplaced sound same,storablePatched (sound.storable e member),
      keyElsewhere num toLowerCase sound.ids,only]
    constructor
    · rintro ⟨⟨host,port,time⟩,apart⟩
      exact ⟨host,port,time,apart⟩
    · rintro ⟨host,port,time,apart⟩
      exact ⟨⟨host,port,time⟩,apart⟩
  · have elsewhere (e : SavedConnection F) (member : e ∈ entries) : e.id ≠ id := fun same =>
      there ⟨e,member,same⟩
    rw [updateElsewhere elsewhere]
    exact ⟨fun _ e member same => absurd same (elsewhere e member),fun _ => sound⟩

theorem soundMarked {entries : List (SavedConnection F)} (sound : Sound num toLowerCase entries)
    {e : SavedConnection F} (member : e ∈ entries) {patch : Patch F} (host : patch.host = none)
    (port : patch.port = none) : Sound num toLowerCase (update entries e.id patch) ↔
      ∀ time, patch.lastConnectedAt = some (some time) → num.isFinite time := by
  rw [soundUpdated sound]
  constructor
  · exact fun all => (all e member rfl).time
  · intro time x member' same
    obtain rfl := List.inj_on_of_nodup_map sound.ids member' member same
    refine ⟨by rw [host]; exact nofun,by rw [port]; exact nofun,time,fun other member'' different same => ?_⟩
    rw [host,port] at same
    exact different (congrArg SavedConnection.id (List.inj_on_of_nodup_map sound.keys member'' member' same))

theorem soundNew {entries : List (SavedConnection F)} (sound : Sound num toLowerCase entries)
    {e : SavedConnection F} {host : String} {port : F} (own : e.host = some host) (at_ : e.port = some port)
    (label : e.label = if e.label.isSome ∧ e.label ≠ some "" then e.label else e.host)
    (missing : ¬ ∃ e ∈ entries, keyOf num toLowerCase e = some (addressKey num toLowerCase host (some port))) :
    Sound num toLowerCase (entries ++ [e]) ↔
      (∀ time, e.lastConnectedAt = some time → num.isFinite time) ∧
        Addable num toLowerCase entries e.id host port := by
  have free : keyOf num toLowerCase e ∉ entries.map (keyOf num toLowerCase) := by
    rw [keyOf,own,at_,Option.map_some,List.mem_map]
    exact missing
  have storable : Storable num e ↔
      (∀ time, e.lastConnectedAt = some time → num.isFinite time) ∧ validPort num port := by
    constructor
    · rintro ⟨_,⟨port',there,valid⟩,_,time⟩
      rw [at_] at there
      cases there
      exact ⟨time,valid⟩
    · rintro ⟨time,valid⟩
      exact ⟨by rw [own]; rfl,⟨port,at_,valid⟩,label,time⟩
  rw [soundAdded sound e free,storable,Addable,or_iff_right missing]
  exact and_left_comm

theorem stepSound {entries : List (SavedConnection F)} (sound : Sound num toLowerCase entries) (e : Event F) :
    Sound num toLowerCase (step num toLowerCase entries e) ↔ Fits num toLowerCase entries e := by
  cases e with
  | remove id => exact iff_of_true (soundRemoved sound id) trivial
  | update id patch => exact soundUpdated sound id patch
  | setAutoConnect id value =>
    refine iff_of_true ?_ trivial
    by_cases there : ∃ e ∈ entries, e.id = id
    · obtain ⟨e,member,rfl⟩ := there
      exact (soundMarked sound member rfl rfl).mpr nofun
    · have elsewhere (e : SavedConnection F) (member : e ∈ entries) : e.id ≠ id := fun same =>
        there ⟨e,member,same⟩
      show Sound num toLowerCase (update entries id _)
      rwa [updateElsewhere elsewhere]
  | add id input =>
    simp only [step,add,foundByAddress sound.storable,bind,Except.bind,pure,Except.pure,Fits]
    cases found : entries.find? fun e => decide (keyOf num toLowerCase e =
        some (addressKey num toLowerCase (trimmed input.host) (some input.port))) with
    | some existing =>
      have there := List.find?_some found
      rw [decide_eq_true_eq] at there
      exact iff_of_true sound (.inl ⟨existing,List.mem_of_find?_eq_some found,there⟩)
    | none =>
      have missing := List.find?_eq_none.mp found
      rw [soundNew sound rfl rfl ?_ fun ⟨e,member,same⟩ => missing e member (decide_eq_true same)]
      · exact and_iff_right nofun
      · by_cases blank : (input.label.map trimmed).getD "" = "" <;> simp [blank]
  | markConnected id host port at_ =>
    simp only [step,markConnected,foundByAddress sound.storable,bind,Except.bind,pure,Except.pure,Fits]
    cases found : entries.find? fun e => decide (keyOf num toLowerCase e =
        some (addressKey num toLowerCase host (some port))) with
    | some existing =>
      have there := List.find?_some found
      rw [decide_eq_true_eq] at there
      have member := List.mem_of_find?_eq_some found
      rw [soundMarked sound member rfl rfl]
      constructor
      · exact fun finite => ⟨finite at_ rfl,.inl ⟨existing,member,there⟩⟩
      · rintro ⟨finite,_⟩ time same
        cases same
        exact finite
    | none =>
      have missing := List.find?_eq_none.mp found
      rw [soundNew sound rfl rfl ?_ fun ⟨e,member,same⟩ => missing e member (decide_eq_true same)]
      · simp
      · exact (ite_self _).symm

theorem loadedStorable (stored : Option (Json F)) {e : SavedConnection F}
    (member : e ∈ load num stored) :
    Storable num e ↔ ∀ time, e.lastConnectedAt = some time → num.isFinite time := by
  refine ⟨Storable.time,fun time => ?_⟩
  unfold load at member
  split at member
  · cases member
  · split at member
    · split at member
      · obtain ⟨entry,inside,rfl⟩ := List.mem_map.mp member
        have valid := (List.mem_filter.mp inside).2
        simp only [isValid,Bool.and_eq_true] at valid
        refine ⟨valid.1.2,(Option.any_eq_true _ _).mp valid.2,?_,time⟩
        simp only [normalizeJson,normalize]
        split
        · rfl
        · exact (ite_self _).symm
      · cases member
    · cases member

/- The rows stay distinct and stored as they are exactly in the runs whose calls all fit. -/
theorem connectionsStay (regular : Regular num) (stored : Option (Json F))
    (ids : ((load num stored).map SavedConnection.id).Nodup)
    (keys : ((load num stored).map (keyOf num toLowerCase)).Nodup) (events : List (Event F)) :
    Throughout (step num toLowerCase) (Stays num toLowerCase) (load num stored) events ↔
      (∀ e ∈ load num stored, ∀ time, e.lastConnectedAt = some time → num.isFinite time) ∧
        Along (step num toLowerCase) (Fits num toLowerCase) (load num stored) events := by
  have start : Stays num toLowerCase (load num stored) ↔
      ∀ e ∈ load num stored, ∀ time, e.lastConnectedAt = some time → num.isFinite time := by
    rw [staysSound regular]
    constructor
    · exact fun sound e member => (loadedStorable stored member).mp (sound.storable e member)
    · exact fun finite => ⟨ids,keys,fun e member => (loadedStorable stored member).mpr (finite e member)⟩
  have runs (stays : Stays num toLowerCase (load num stored)) :
      Throughout (step num toLowerCase) (Stays num toLowerCase) (load num stored) events ↔
        Along (step num toLowerCase) (Fits num toLowerCase) (load num stored) events := by
    have sound := (staysSound regular _).mp stays
    refine throughoutIffAlong (fun s e (sound : Sound num toLowerCase s) fits => (stepSound sound e).mpr fits)
      (fun s e (sound : Sound num toLowerCase s) => ?_) sound stays events
    rw [staysSound regular]
    exact stepSound sound e
  constructor
  · intro all
    have stays := all [] List.nil_prefix
    exact ⟨start.mp stays,(runs stays).mp all⟩
  · rintro ⟨finite,along⟩
    exact (runs (start.mpr finite)).mpr along

end

def asciiLower (text : String) : String := String.ofList (text.toList.map Char.toLower)

def benchStored : Json Int :=
  .object [("version",.number 1),("entries",.array [
    .object [("id",.text "a"),("host",.text "Scope.local"),("port",.number 5025),("label",.text "")],
    .object [("id",.text "b"),("host",.text "psu.local"),("port",.number 0)]])]

def benchRun : List (Event Int) :=
  [.add "c" ⟨" psu.local ",5025,none,some true⟩,.markConnected "d" "SCOPE.LOCAL" 5025 1700000000000,
    .setAutoConnect "c" false,.remove "a"]

theorem benchStays : Throughout (step wholeNumbers asciiLower) (Stays wholeNumbers asciiLower)
    (load wholeNumbers (some benchStored)) benchRun := by
  refine (connectionsStay ⟨rfl,fun _ _ => rfl⟩ (some benchStored) (by decide) (by decide) benchRun).mpr
    ⟨fun _ _ _ _ => rfl,?_⟩
  refine ⟨.inr ⟨by decide,by decide⟩,⟨rfl,.inl ?_⟩,trivial,trivial,trivial⟩
  exact ⟨⟨"a",some "Scope.local",some 5025,some "Scope.local",false,none⟩,by decide,by decide⟩

/- A row is moved to the address of another. -/
theorem patchedOntoAnother : ¬ Throughout (step wholeNumbers asciiLower) (Stays wholeNumbers asciiLower)
    (load wholeNumbers none) [.add "a" ⟨"psu.local",5025,none,none⟩,.add "b" ⟨"psu.local",5026,none,none⟩,
      .update "b" { port := some (some 5025) }] := by
  intro all
  exact absurd all.last.keys (by decide)

end LxiWeb.SavedConnections
