import Rathole.Config

set_option autoImplicit false

namespace Rathole

inductive ClientServiceChange
  | add (cfg : ClientServiceConfig)
  | delete (name : String)
  deriving DecidableEq

inductive ServerServiceChange
  | add (cfg : ServerServiceConfig)
  | delete (name : String)
  deriving DecidableEq

inductive ConfigChange
  | general (config : Config)
  | serverChange (change : ServerServiceChange)
  | clientChange (change : ClientServiceChange)
  deriving DecidableEq

def ConfigChange.isGeneral : ConfigChange → Bool
  | .general _ => true
  | _ => false

/-- The trait `InstanceConfig`: what the two sections share. -/
class InstanceConfig (T : Type) (ServiceConfig : outParam Type) where
  equalWithoutService : T → T → Bool
  serviceDeleteChange : String → ConfigChange
  serviceAddChange : ServiceConfig → ConfigChange
  getServices : T → HashMap String ServiceConfig

open InstanceConfig

instance : InstanceConfig ServerConfig ServerServiceConfig where
  equalWithoutService left right :=
    ({ left with services := ∅ } : ServerConfig) = { right with services := ∅ }
  serviceDeleteChange s := .serverChange (.delete s)
  serviceAddChange cfg := .serverChange (.add cfg)
  getServices config := config.services

instance : InstanceConfig ClientConfig ClientServiceConfig where
  equalWithoutService left right :=
    ({ left with services := ∅ } : ClientConfig) = { right with services := ∅ }
  serviceDeleteChange s := .clientChange (.delete s)
  serviceAddChange cfg := .clientChange (.add cfg)
  getServices config := config.services

section Events

variable {T S : Type} [DecidableEq S] [InstanceConfig T S]

/-- Names of `old` that `new` no longer has, in the iteration order of `old`. -/
def deletions (order : HashOrder) (old new : HashMap String S) : List String :=
  (order.keys old).filter fun name => (new.lookup name).isNone

/-- Entries of `new` that `old` lacks or maps to another config. -/
def additions (order : HashOrder) (old new : HashMap String S) : List (String × S) :=
  (order.entries new).filter fun e => old.lookup e.1 ≠ some e.2

/-- `calculate_instance_config_events`: `none` indicates a General change. -/
def calculateInstanceConfigEvents (order : HashOrder) (old new : T) : Option (List ConfigChange) :=
  if equalWithoutService old new then
    some (((deletions order (getServices old) (getServices new)).map (serviceDeleteChange T)) ++
      (additions order (getServices old) (getServices new)).map fun e => serviceAddChange T e.2)
  else none

/-- The events of one section. A section that differs is present on both sides
here, so the two `unwrap`s of the source do not fail. -/
def sectionEvents [DecidableEq T] (order : HashOrder) (old new : Option T) :
    Option (List ConfigChange) :=
  if old = new then some []
  else
    match old, new with
    | some old, some new => calculateInstanceConfigEvents order old new
    | _, _ => none

end Events

/-- `calculate_events`. -/
def calculateEvents (order : HashOrder) (old new : Config) : Option (List ConfigChange) :=
  if old = new then none
  else if old.server.isSome ≠ new.server.isSome ∨ old.client.isSome ≠ new.client.isSome then
    some [.general new]
  else
    match sectionEvents order old.server new.server with
    | none => some [.general new]
    | some ret =>
      match sectionEvents order old.client new.client with
      | none => some [.general new]
      | some more => some (ret ++ more)

end Rathole
