import ScriptArena.Text.Quoted
import ScriptArena.Value.Datum

namespace ScriptArena

inductive Difficulty where
  | junior | mid | senior
deriving Repr, DecidableEq

inductive Category where
  | algorithm | debug | optimize
deriving Repr, DecidableEq

namespace Difficulty

def name : Difficulty → String
  | .junior => "Junior" | .mid => "Mid" | .senior => "Senior"

def all : List Difficulty := [.junior, .mid, .senior]

end Difficulty

namespace Category

def name : Category → String
  | .algorithm => "Algorithm" | .debug => "Debug" | .optimize => "Optimize"

def all : List Category := [.algorithm, .debug, .optimize]

end Category

structure TestCase where
  input : Datum
  expected : Datum
  description : Option String := none
  explanation : Option String := none

-- A list holds the arguments one by one; anything else is the only argument.
def TestCase.arguments (c : TestCase) : List Datum :=
  match c.input with
  | .list items => items
  | d => [d]

structure Challenge where
  id : String
  title : String := ""
  description : String := ""
  difficulty : Difficulty := .junior
  category : Category := .debug
  template : String := ""
  solution : String := ""
  testCases : List TestCase := []
  points : Int := 0
  hints : List String := []
  learningObjectives : List String := []
  commonMistakes : List String := []
  language : String := "python"
  givenName : String := ""
  loopVariable : Option String := none

-- Unless it is given, the name of the function is the id with its dashes as underscores.
def Challenge.functionName (c : Challenge) : String :=
  if c.givenName.isEmpty then
    String.ofList (c.id.toList.map fun d => if d = '-' then '_' else d)
  else c.givenName

inductive CatalogError where
  | empty
  | repeatedId
  | unknownDifficulty (name : String)
  | unknownCategory (name : String)
deriving Repr, DecidableEq

def CatalogError.message : CatalogError → String
  | .empty => "A catalog needs at least one challenge"
  | .repeatedId => "Challenge ids must be unique"
  | .unknownDifficulty name => Text.quote name ++ " is not a valid Difficulty"
  | .unknownCategory name => Text.quote name ++ " is not a valid Category"

def Difficulty.ofName (name : String) : Except CatalogError Difficulty :=
  match Difficulty.all.find? (·.name == name) with
  | some d => .ok d
  | none => .error (.unknownDifficulty name)

def Category.ofName (name : String) : Except CatalogError Category :=
  match Category.all.find? (·.name == name) with
  | some c => .ok c
  | none => .error (.unknownCategory name)

-- Challenges in order, at least one, each with an id of its own.
structure Catalog where
  first : Challenge
  others : List Challenge
  distinct : ((first :: others).map Challenge.id).Nodup

namespace Catalog

def toList (c : Catalog) : List Challenge := c.first :: c.others

def ofList : List Challenge → Except CatalogError Catalog
  | [] => .error .empty
  | c :: cs => if h : ((c :: cs).map Challenge.id).Nodup then .ok ⟨c, cs, h⟩ else .error .repeatedId

def size (c : Catalog) : Nat := c.others.length + 1

-- Indices go round the catalog, in both directions.
def place (c : Catalog) (index : Int) : Nat := (index % (c.size : Int)).toNat

theorem place_lt (c : Catalog) (index : Int) : c.place index < c.toList.length := by
  have positive : (0 : Int) < c.size := by simp [size]
  have low := Int.emod_nonneg index (Int.ne_of_gt positive)
  have high := Int.emod_lt_of_pos index positive
  simp only [place, toList, size, List.length_cons] at *
  omega

def atIndex (c : Catalog) (index : Int) : Challenge := c.toList.get ⟨c.place index, c.place_lt index⟩

def find? (c : Catalog) (id : String) : Option Challenge := c.toList.find? (·.id == id)

end Catalog
end ScriptArena
