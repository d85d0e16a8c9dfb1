import EventMonitor.Library.KeyedTable
import EventMonitor.Model.Dto
import Mathlib.Order.Lattice.Nat

/-!
# The events table and its entity

An `Event` is the entity that the repository saves and deletes; the table holds one row
per id. `save` and `delete` are those of Spring Data JPA over an identity column: saving
an entity whose id has no row inserts it under an id that the database generates.
-/

namespace EventMonitor

open Library

/-- The JPA entity of the events table. -/
structure Event where
  id : Option Int
  name : Option String
  timestamp : Option String
  updatedBy : Option Int
  deriving DecidableEq, Repr

/-- The columns of a row other than its id. -/
structure EventColumns where
  name : Option String
  timestamp : Option String
  updatedBy : Option Int
  deriving DecidableEq, Repr

/-- The events table. -/
abbrev EventsTable := KeyedTable Int EventColumns

/-- The columns that an entity is stored with. -/
def Event.columns (event : Event) : EventColumns := ⟨event.name, event.timestamp, event.updatedBy⟩

/-- The columns that an event with this data is stored with. -/
def EventDto.columns (dto : EventDto) : EventColumns := ⟨dto.name, dto.timestamp, dto.updatedBy⟩

/-- The id generator that counts upwards from the largest magnitude used so far. -/
def countingIds : KeySource Int where
  next used := (used.sup Int.natAbs : ℕ) + 1
  next_notMem used hmem := by
    have hle : Int.natAbs ((used.sup Int.natAbs : ℕ) + 1) ≤ used.sup Int.natAbs :=
      Finset.le_sup (f := Int.natAbs) hmem
    omega

namespace EventRepository

/-- `save`: the stored entity is returned. -/
def save (table : EventsTable) (ids : KeySource Int) (event : Event) : EventsTable × Event :=
  let (table, id) := table.upsert ids event.id event.columns
  (table, { event with id := some id })

/-- `delete`: Spring Data returns nothing, which the declared type turns into `null`. -/
def delete (table : EventsTable) (event : Event) : EventsTable × Option Event :=
  (table.removeRequested event.id, none)

end EventRepository

namespace EventEventDtoMapper

/-- A missing entity becomes an `EventDto` without data. -/
def convertEntityToDto : Option Event → EventDto
  | none => .empty
  | some entity => ⟨entity.id, entity.name, entity.timestamp, entity.updatedBy⟩

/-- All four fields are copied. -/
def convertDtoToEntity (dto : EventDto) : Event := ⟨dto.id, dto.name, dto.timestamp, dto.updatedBy⟩

/-- Converting to an entity and back is the identity. -/
@[simp] theorem convertEntityToDto_convertDtoToEntity (dto : EventDto) :
    convertEntityToDto (some (convertDtoToEntity dto)) = dto := rfl

end EventEventDtoMapper

end EventMonitor
