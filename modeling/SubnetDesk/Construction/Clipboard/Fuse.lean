/-
This file defines the tree of files that is mounted for the list of a peer.
-/

import SubnetDesk.Construction.Clipboard.LocalFile
import Mathlib.Logic.Function.Basic

namespace SubnetDesk.Clipboard.FileList

open FileTree FileTransfer

def fuseRootId : Nat := 1
def maxNameLen : Nat := 255

/-- The times are in nanoseconds after the Unix epoch. -/
structure InodeAttributes where
  inode : Nat
  size : Nat
  lastAccessed : Nat
  lastModified : Nat
  lastMetadataChanged : Nat
  creationTime : Nat
  kind : FileType
  perm : Nat
deriving DecidableEq

structure FuseNode where
  connId : Int
  index : Nat
  parent : Option Nat
  name : Path
  attributes : InodeAttributes
  children : List Nat
deriving DecidableEq

namespace FuseNode

def fromDescription (now inode : Nat) (desc : FileDescription) : FuseNode where
  connId := desc.connId
  index := inode - 2
  parent := none
  name := desc.name
  attributes := {
    inode := inode
    size := desc.size
    lastAccessed := now
    lastModified := desc.lastModified
    lastMetadataChanged := desc.lastMetadataChanged
    creationTime := desc.creationTime
    kind := desc.kind
    perm := desc.perm }
  children := []

def newRoot (now : Nat) : FuseNode where
  connId := 0
  index := 0
  parent := none
  name := ['/']
  attributes := ⟨fuseRootId, 0, now, now, now, now, .directory, permRwx⟩
  children := []

def addChild (node : FuseNode) (inode : Nat) : FuseNode :=
  { node with children := node.children ++ [inode] }

end FuseNode

/-- Paths are equal where their components are. -/
abbrev SubRootMap := List Component → Option Nat

/-- This is `Path::parent`. The root and the empty path have none. -/
def parentComponents (components : List Component) : Option (List Component) :=
  match components.getLast? with
  | none => none
  | some .rootDir => none
  | some _ => some components.dropLast

/-- This is `Path::file_name`. -/
def fileNameOf (components : List Component) : Option Segment :=
  match components.getLast? with
  | some (.normal segment) => some segment
  | _ => none

structure Growth where
  tree : List FuseNode
  subRootMap : SubRootMap

def Growth.start (now : Nat) : Growth where
  tree := [FuseNode.newRoot now]
  subRootMap key := if key = [.rootDir] ∨ key = [] then some fuseRootId else none

/-- An unknown parent is replaced by the root. -/
def Growth.parentInode (growth : Growth) (file : FileDescription) : Nat :=
  match parentComponents (components file.name) with
  | some parent => (growth.subRootMap parent).getD fuseRootId
  | none => fuseRootId

/-- One turn of the loop of `build_tree`. -/
def Growth.add (now : Nat) (growth : Growth) (file : FileDescription) :
    Except CliprdrError Growth :=
  let inode := growth.tree.length + fuseRootId
  let parent := growth.parentInode file
  let tree := growth.tree.modify (parent - 1) (·.addChild inode)
  match fileNameOf (components file.name) with
  | none => .error .fileError
  | some baseName =>
      let node := FuseNode.fromDescription now inode { file with name := baseName }
      .ok {
        tree := tree ++ [{ node with parent := some parent }]
        subRootMap :=
          if file.kind = .directory then
            Function.update growth.subRootMap (components file.name) (some inode)
          else growth.subRootMap }

def buildTree (now : Nat) (files : List FileDescription) : Except CliprdrError (List FuseNode) :=
  (files.foldlM (Growth.add now) (Growth.start now)).map (·.tree)

inductive Errno where
  | nameTooLong
  | noEntry
  | notDirectory
deriving DecidableEq

def OsSegment.len (name : OsSegment) : Nat :=
  (name.map fun
    | .char value => value.utf8Size
    | .invalid bytes => bytes.length).sum

/-- The first child with the name answers a lookup. -/
def lookup (files : List FuseNode) (parent : Nat) (name : OsSegment) :
    Except Errno InodeAttributes :=
  if maxNameLen < OsSegment.len name then .error .nameTooLong
  else
    match files[parent - 1]? with
    | none => .error .noEntry
    | some parentEntry =>
        if parentEntry.attributes.kind ≠ .directory then .error .notDirectory
        else
          match (parentEntry.children.filterMap fun inode => files[inode - 1]?).find?
              (fun child => child.name.map OsChar.char = name) with
          | some child => .ok child.attributes
          | none => .error .noEntry

/-- A path is looked up one component after the other, from an inode on. -/
def lookupPath (files : List FuseNode) : Nat → List OsSegment → Except Errno Nat
  | inode, [] => .ok inode
  | inode, name :: rest =>
      match lookup files inode name with
      | .error errno => .error errno
      | .ok attributes => lookupPath files attributes.inode rest

end SubnetDesk.Clipboard.FileList
