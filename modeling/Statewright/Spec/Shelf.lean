import Statewright.Spec.Reading

/-!
Readers that are used again. In memory a reader has one place for each specification that it began, and holds the last
of them. What it reads next is filled in where it stands, at a place of its own; those who were given an earlier
specification keep its place.
-/
set_option autoImplicit false

namespace Statewright

structure Shelf where
  made : List Spec := []
  held : Option Nat := none
  source : Option Text := none

namespace Shelf

open Reading

def held? (shelf : Shelf) : Option Spec := shelf.held.bind fun place => shelf.made[place]?

-- Filling looks at what stands at a place and changes it there.
def fillAt {α : Type} (shelf : Shelf) (place : Fin shelf.made.length) (filling : Filling α) :
    Except Misshape α × Shelf :=
  let (outcome, spec) := filling.run.run (shelf.made.get place)
  (outcome, { shelf with made := shelf.made.set place spec })

-- A new specification is put behind all others.
def put (shelf : Shelf) (spec : Spec) : Shelf :=
  { shelf with made := shelf.made ++ [spec], held := some shelf.made.length }

def last (shelf : Shelf) (spec : Spec) : Fin (shelf.put spec).made.length :=
  ⟨shelf.made.length, by simp [put]⟩

def readElement (shelf : Shelf) (root : Markup.Element) : Except Misshape Nat × Shelf :=
  match begin shelf.source root with
  | .error misshape => (.error misshape, shelf)
  | .ok empty =>
    let (outcome, filled) := (shelf.put empty).fillAt (shelf.last empty) (fill root)
    (outcome.map fun () => shelf.made.length, filled)

-- What is read is given away by its place.
def read (shelf : Shelf) (text : Text) (source : Option Text) : Except Misshape Nat × Shelf :=
  let shelf := { shelf with source }
  match Markup.read text with
  | .error line => (.error ⟨.malformed, line⟩, shelf)
  | .ok root => shelf.readElement root

def readAll (shelf : Shelf) (documents : List (Text × Option Text)) : Shelf :=
  documents.foldl (fun shelf (text, source) => (shelf.read text source).2) shelf

end Shelf

end Statewright
