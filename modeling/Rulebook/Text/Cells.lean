import Rulebook.Text.CellWidthTable
import Rulebook.Text.Ranges

/-!
How many columns a text takes on a terminal, and cutting a text by columns. A cut never falls
inside a cluster, that is, a character together with what joins it.
-/

namespace Rulebook.Text

def charCells (c : Char) : Nat :=
  if Ranges.contains CellWidthTable.zeroWidth c.toNat then 0
  else if Ranges.contains CellWidthTable.doubleWidth c.toNat then 2
  else 1

/-- Joins the characters around it into one picture. -/
def joiner : Char := '\u200d'

/-- Asks for the symbol before it to be shown as a pictograph. -/
def pictureSelector : Char := '\ufe0f'

def isWidened (c : Char) : Bool := Ranges.contains CellWidthTable.widened c.toNat

/-- The columns of the rest of a text, where `last` is the character shown before it that a
selector would change. -/
def cellsAfter (last : Option Char) : List Char → Nat
  | [] => 0
  | c :: rest =>
      if c = joiner then
        match rest with
        | [] => 0
        | _ :: later => cellsAfter last later
      else if c = pictureSelector then
        (if last.any isWidened then 1 else 0) + cellsAfter none rest
      else if charCells c = 0 then cellsAfter last rest
      else charCells c + cellsAfter (some c) rest

/-- The number of columns that a text takes. -/
def cells (text : List Char) : Nat := cellsAfter none text

/-- Characters that stand in the same columns. -/
structure Cluster where
  text : List Char
  cells : Nat

namespace Cluster

/-- Adds characters to the last cluster of a reversed list, or makes the first one of them. -/
def attach (added : List Char) (more : Nat) : List Cluster → List Cluster
  | [] => [⟨added, 0⟩]
  | cluster :: earlier => ⟨cluster.text ++ added, cluster.cells + more⟩ :: earlier

/-- Collects clusters, the last one first. -/
def collect (found : List Cluster) (last : Option Char) : List Char → List Cluster
  | [] => found
  | c :: rest =>
      if c = joiner then
        if found.isEmpty then collect (attach [c] 0 found) last rest
        else match rest with
          | [] => attach [c] 0 found
          | d :: later => collect (attach [c, d] 0 found) last later
      else if c = pictureSelector then
        if !found.isEmpty && last.any isWidened then collect (attach [c] 1 found) none rest
        else collect (attach [c] 0 found) last rest
      else if charCells c = 0 then collect (attach [c] 0 found) last rest
      else collect (⟨[c], charCells c⟩ :: found) (some c) rest

end Cluster

def clusters (text : List Char) : List Cluster := (Cluster.collect [] none text).reverse

/-- The clusters that fit into the given columns; a blank stands for half of one cut in two. -/
def takeClusters (total : Nat) : List Cluster → List Char
  | [] => []
  | cluster :: rest =>
      if total = 0 then []
      else if cluster.cells ≤ total then cluster.text ++ takeClusters (total - cluster.cells) rest
      else [' ']

/-- The text cut or filled up with blanks to the given columns. -/
def fitCells (total : Nat) (text : List Char) : List Char :=
  if total = 0 then []
  else if cells text ≤ total then text ++ List.replicate (total - cells text) ' '
  else takeClusters total (clusters text)

/-- Puts clusters into lines of the given columns, after those on the line already begun. -/
def chopClusters (width : Nat) (line : List Char) (used : Nat) : List Cluster → List (List Char)
  | [] => if used = 0 then [] else [line]
  | cluster :: rest =>
      if width < used + cluster.cells then
        line :: chopClusters width cluster.text cluster.cells rest
      else chopClusters width (line ++ cluster.text) (used + cluster.cells) rest

/-- Cuts a text into pieces that fit into the given columns. -/
def chopCells (width : Nat) (text : List Char) : List (List Char) :=
  chopClusters width [] 0 (clusters text)

end Rulebook.Text
