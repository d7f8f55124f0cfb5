/-
  The number of terminal cells that a text takes.

  * `charWidth` is 0 for control and combining characters, 2 for wide ones (East Asian characters
    and pictographs) and 1 for all others;
  * `width` is the width of a text: the sum over its characters, but a character after a joiner is
    drawn as a part of the one before and takes no cell, and a selector widens a narrow pictograph;
  * `clusters` cuts a text into the parts that are drawn as one, each with its cells; a text is cut
    between clusters only (`fit`, `pieces`).
-/
import ContractAudit.Terminal.WidthTable
import ContractAudit.Total

namespace ContractAudit.Terminal

/-- The cells that one character takes. -/
def charWidth (c : Char) : Nat :=
  if zeroWidth.contains c then 0 else if doubleWidth.contains c then 2 else 1

/-- The zero-width joiner: it makes one sign of the characters on both sides. -/
def joiner : Char := '\u200D'

/-- The variation selector that makes a pictograph of the character before it. -/
def selector : Char := '\uFE0F'

/-- The cells that a selector adds after the character `last`. -/
def selectorWidth (last : Option Char) : Nat :=
  if last.any widening.contains then 1 else 0

/-- The cells of the rest of a text, where `last` is the last character before it that took a
cell. -/
def widthAfter (last : Option Char) : List Char → Nat
  | [] => 0
  | [c] => if c == joiner then 0 else if c == selector then selectorWidth last else charWidth c
  | c :: d :: rest =>
    if c == joiner then widthAfter last rest
    else if c == selector then selectorWidth last + widthAfter none (d :: rest)
    else charWidth c + widthAfter (if charWidth c = 0 then last else some c) (d :: rest)

/-- The cells that a text takes. -/
def width (s : List Char) : Nat :=
  widthAfter none s

/-- Characters that are drawn as one. -/
structure Cluster where
  chars : List Char
  cells : Nat
deriving DecidableEq, Repr

/-- The clusters of the rest of a text. `current` is the cluster being built, if one is begun, and
`last` the last character that took a cell. A joiner or a selector that no character comes before is
a cluster of its own. -/
def clustersFrom (current : Option Cluster) (last : Option Char) : List Char → List Cluster
  | [] => current.toList
  | c :: rest =>
    match current with
    | none => clustersFrom (some ⟨[c], charWidth c⟩) (if charWidth c = 0 then last else some c) rest
    | some k =>
      if c == joiner then
        match rest with
        | [] => [⟨k.chars ++ [c], k.cells⟩]
        | d :: rest => clustersFrom (some ⟨k.chars ++ [c, d], k.cells⟩) last rest
      else if c == selector then
        clustersFrom (some ⟨k.chars ++ [c], k.cells + selectorWidth last⟩) none rest
      else if charWidth c = 0 then clustersFrom (some ⟨k.chars ++ [c], k.cells⟩) last rest
      else k :: clustersFrom (some ⟨[c], charWidth c⟩) (some c) rest

/-- The clusters of a text. -/
def clusters (s : List Char) : List Cluster :=
  clustersFrom none none s

/-- A number of blanks. -/
def blanks (n : Nat) : List Char :=
  List.replicate n ' '

/-- The clusters that fit into `w` cells. A blank takes the place of one that fits in part. -/
def cutClusters (w : Nat) : List Cluster → List Char
  | [] => []
  | k :: rest =>
    if w = 0 then []
    else if k.cells ≤ w then k.chars ++ cutClusters (w - k.cells) rest
    else [' ']

/-- The text in `w` cells, cut or filled up with blanks. -/
def fit (w : Nat) (s : List Char) : List Char :=
  if width s ≤ w then s ++ blanks (w - width s) else cutClusters w (clusters s)

/-- Clusters in pieces of at most `w` cells, or of one cluster that is wider. `piece` is the one
being built and `used` its cells. -/
def piecesFrom (w : Nat) (piece : List Char) (used : Nat) : List Cluster → List (List Char)
  | [] => [piece]
  | k :: rest =>
    if w < used + k.cells then piece :: piecesFrom w k.chars k.cells rest
    else piecesFrom w (piece ++ k.chars) (used + k.cells) rest

/-- The text in pieces of at most `w` cells. -/
def pieces (w : Nat) (s : List Char) : List (List Char) :=
  piecesFrom w [] 0 (clusters s)

end ContractAudit.Terminal
