import Mathlib.Data.List.Dedup
import Mathlib.Algebra.Order.Ring.Int
import Mathlib.Data.List.Sort
import Wildflow.Store.Dict

/-!
# Selecting a channel

`GetRandomSatisfiedChannel` with the memory cache (`model/channel_cache.go`) and without it (`GetChannel` of
`model/ability.go`). A channel comes with what `Split` and `GetModels` make of its group and models, and `draw` stands
for the random number. A cached list is read in the order of the rows: which draws are a channel's depends on the order,
their number does not. `GetChannel` gives the first ability a draw more, so its abilities are in the order of the query;
ties are in the order of the table.
-/

namespace Wildflow.Channels
open Wildflow.Store

def channelTypeAdvancedCustom : Nat := 58

def channelTypeTaskPlugin : Nat := 61

/-- `supportsPath` is what the advanced custom config of the channel says of a path and a model. -/
structure ChannelRow where
  id : Nat
  type : Nat
  enabled : Bool
  groups : List String
  models : List String
  priority : Option Int
  weight : Option Nat
  taskPluginKey : String
  supportsPath : String → String → Bool

def ChannelRow.getPriority (channel : ChannelRow) : Int := channel.priority.getD 0

def ChannelRow.getWeight (channel : ChannelRow) : Nat := channel.weight.getD 0

inductive ChannelFilter where
  | requestPath (path : String)
  | taskPluginIdentity (pluginKey : String) (channelTypes : List Nat)

def channelMatchesFilter (channel : ChannelRow) (modelName : String) : ChannelFilter → Bool
  | .requestPath path => path = "" ∨ channel.type ≠ channelTypeAdvancedCustom ∨ channel.supportsPath path modelName
  | .taskPluginIdentity pluginKey channelTypes =>
    if channel.type = channelTypeTaskPlugin then pluginKey ≠ "" ∧ channel.taskPluginKey = pluginKey
    else pluginKey = "" ∨ channel.type ∈ channelTypes

def channelSatisfiesFilters (filters : List ChannelFilter) (modelName : String) (channel : ChannelRow) : Bool :=
  filters.all (channelMatchesFilter channel modelName)

def uniquePriorities (priorities : List Int) : List Int := priorities.dedup.insertionSort (· ≥ ·)

def targetPriority (priorities : List Int) (retry : Nat) : Int :=
  (uniquePriorities priorities).getD (min retry ((uniquePriorities priorities).length - 1)) 0

/-- `group2model2channels[group][model]` after `InitChannelCache`. -/
def cachedChannels (channels : List ChannelRow) (group model : String) : List ChannelRow :=
  (channels.filter ChannelRow.enabled).flatMap fun channel =>
    (channel.groups.filter (· = group)).flatMap fun _ => (channel.models.filter (· = model)).map fun _ => channel

def drawBelow (weight : ChannelRow → Nat) : List ChannelRow → Nat → Option ChannelRow
  | [], _ => none
  | channel :: rest, randomWeight =>
    if randomWeight < weight channel then some channel else drawBelow weight rest (randomWeight - weight channel)

def smoothedWeight (targets : List ChannelRow) (channel : ChannelRow) : Nat :=
  let sumWeight := (targets.map ChannelRow.getWeight).sum
  if sumWeight = 0 then 100
  else if sumWeight / targets.length < 10 then channel.getWeight * 100
  else channel.getWeight

def totalWeight (targets : List ChannelRow) : Nat :=
  let sumWeight := (targets.map ChannelRow.getWeight).sum
  if sumWeight = 0 then targets.length * 100
  else if sumWeight / targets.length < 10 then sumWeight * 100
  else sumWeight

def targetChannels (channels : List ChannelRow) (retry : Nat) : List ChannelRow :=
  channels.filter fun channel => channel.getPriority = targetPriority (channels.map ChannelRow.getPriority) retry

def selectCandidate (channels : List ChannelRow) (retry draw : Nat) : Option ChannelRow :=
  match channels with
  | [] => none
  | [channel] => some channel
  | _ =>
    let targets := targetChannels channels retry
    drawBelow (smoothedWeight targets) targets (draw % (targets.map (smoothedWeight targets)).sum)

section
variable (routingMatchModelName : String → String)

def candidates (channels : List ChannelRow) (group model : String) (filters : List ChannelFilter) : List ChannelRow :=
  let exact := (cachedChannels channels group model).filter (channelSatisfiesFilters filters model)
  if exact = [] then
    (cachedChannels channels group (routingMatchModelName model)).filter (channelSatisfiesFilters filters model)
  else exact

def getRandomSatisfiedChannel (channels : List ChannelRow) (group model : String) (retry : Nat) (filters : List ChannelFilter)
    (draw : Nat) : Option ChannelRow :=
  selectCandidate (candidates routingMatchModelName channels group model filters) retry draw

end

structure Ability where
  group : String
  model : String
  channelId : Nat
  enabled : Bool
  priority : Option Int
  weight : Nat

/-- The pairs are told apart by their joined names. -/
def addPair (seen : List (String × String)) (pair : String × String) : List (String × String) :=
  if seen.any fun old => old.1 ++ "|" ++ old.2 = pair.1 ++ "|" ++ pair.2 then seen else seen ++ [pair]

def updateAbilities (channel : ChannelRow) : List Ability :=
  let pairs := channel.models.flatMap fun model => channel.groups.map fun group => (group, model)
  (pairs.foldl addPair []).map fun pair =>
    ⟨pair.1, pair.2, channel.id, channel.enabled, channel.priority, channel.getWeight⟩

def abilities (channels : List ChannelRow) : List Ability := channels.flatMap updateAbilities

def drawUpTo : List Ability → Nat → Option Ability
  | [], _ => none
  | ability :: rest, weight =>
    if weight ≤ ability.weight + 10 then some ability else drawUpTo rest (weight - (ability.weight + 10))

/-- `Order("priority DESC, weight DESC")`; a missing priority is the lowest, as SQLite and MySQL have it. -/
def sortAbilities (found : List Ability) : List Ability :=
  found.insertionSort fun first second => Option.lt (· < ·) second.priority first.priority ∨
    second.priority = first.priority ∧ second.weight ≤ first.weight

variable (channels : Table ChannelRow.id)

def enabledAbilities (group model : String) (filters : List ChannelFilter) : List Ability :=
  (sortAbilities ((abilities channels.rows).filter fun ability =>
    ability.group = group ∧ ability.model = model ∧ ability.enabled)).filter fun ability =>
      (channels.find ability.channelId).any (channelSatisfiesFilters filters model)

def targetAbilities (found : List Ability) (retry : Nat) : List Ability :=
  found.filter fun ability => ability.priority.getD 0 = targetPriority (found.map fun ability => ability.priority.getD 0) retry

def getChannel (group model : String) (retry : Nat) (filters : List ChannelFilter) (draw : Nat) :
    Option ChannelRow :=
  let targets := targetAbilities (enabledAbilities channels group model filters) retry
  (drawUpTo targets (draw % (targets.map fun ability => ability.weight + 10).sum)).bind fun ability =>
    channels.find ability.channelId

abbrev GroupIndex := Dict String (Dict String (List Nat))

def GroupIndex.channelIds (index : GroupIndex) (group model : String) : List Nat :=
  ((index.get group).bind (·.get model)).getD []

/-- What the loops over channels, groups and models visit. -/
def cacheEntries (channels : List ChannelRow) : List (String × String × Nat) :=
  (channels.filter ChannelRow.enabled).flatMap fun channel =>
    channel.groups.flatMap fun group => channel.models.map fun model => (group, model, channel.id)

/-- `none` is the panic of a write into a map that was not made. -/
def appendEntry (index : GroupIndex) : String × String × Nat → Option GroupIndex
  | (group, model, id) => (index.get group).map fun model2channels =>
    index.set group (model2channels.set model ((model2channels.get model).getD [] ++ [id]))

/-- Every listed id is one of the snapshot. -/
def cachedPriority (id : Nat) : Int :=
  ((channels.find id).map ChannelRow.getPriority).getD 0

def sortByPriority (ids : List Nat) : List Nat :=
  ids.insertionSort fun first second => cachedPriority channels second ≤ cachedPriority channels first

def madeGroups (abilities : List Ability) : GroupIndex :=
  abilities.foldl (fun index ability => index.set ability.group Dict.empty) Dict.empty

/-- `InitChannelCache` with the memory cache, up to the index it publishes. -/
def initChannelCache (abilities : List Ability) : Option GroupIndex :=
  ((cacheEntries channels.rows).foldlM appendEntry (madeGroups abilities)).map fun index =>
    index.map (fun models => (models.1, models.2.map (fun listed => (listed.1, sortByPriority channels listed.2)) fun _ => rfl))
      fun _ => rfl

end Wildflow.Channels
