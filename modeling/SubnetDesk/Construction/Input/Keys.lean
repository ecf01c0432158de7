/-
This file defines the keys of a host, the control keys of a peer, and the table between them.
-/

import Mathlib.Data.Finset.Basic
import Mathlib.Data.Finset.SymmDiff
import Mathlib.Tactic

namespace SubnetDesk.InputService

inductive ControlKey where
  | unknown
  | alt
  | backspace
  | capsLock
  | control
  | delete
  | downArrow
  | end_
  | escape
  | f1
  | f10
  | f11
  | f12
  | f2
  | f3
  | f4
  | f5
  | f6
  | f7
  | f8
  | f9
  | home
  | leftArrow
  | meta_
  | option
  | pageDown
  | pageUp
  | return
  | rightArrow
  | shift
  | space
  | tab
  | upArrow
  | numpad0
  | numpad1
  | numpad2
  | numpad3
  | numpad4
  | numpad5
  | numpad6
  | numpad7
  | numpad8
  | numpad9
  | cancel
  | clear
  | menu
  | pause
  | kana
  | hangul
  | junja
  | final
  | hanja
  | kanji
  | convert
  | select
  | print
  | execute
  | snapshot
  | insert
  | help
  | sleep
  | separator
  | scroll
  | numLock
  | rWin
  | apps
  | multiply
  | add
  | subtract
  | decimal
  | divide
  | equals
  | numpadEnter
  | rShift
  | rControl
  | rAlt
  | volumeMute
  | volumeUp
  | volumeDown
  | power
  | ctrlAltDel
  | lockScreen
  deriving DecidableEq

def ControlKey.value : ControlKey → BitVec 32
  | .unknown => 0
  | .alt => 1
  | .backspace => 2
  | .capsLock => 3
  | .control => 4
  | .delete => 5
  | .downArrow => 6
  | .end_ => 7
  | .escape => 8
  | .f1 => 9
  | .f10 => 10
  | .f11 => 11
  | .f12 => 12
  | .f2 => 13
  | .f3 => 14
  | .f4 => 15
  | .f5 => 16
  | .f6 => 17
  | .f7 => 18
  | .f8 => 19
  | .f9 => 20
  | .home => 21
  | .leftArrow => 22
  | .meta_ => 23
  | .option => 24
  | .pageDown => 25
  | .pageUp => 26
  | .return => 27
  | .rightArrow => 28
  | .shift => 29
  | .space => 30
  | .tab => 31
  | .upArrow => 32
  | .numpad0 => 33
  | .numpad1 => 34
  | .numpad2 => 35
  | .numpad3 => 36
  | .numpad4 => 37
  | .numpad5 => 38
  | .numpad6 => 39
  | .numpad7 => 40
  | .numpad8 => 41
  | .numpad9 => 42
  | .cancel => 43
  | .clear => 44
  | .menu => 45
  | .pause => 46
  | .kana => 47
  | .hangul => 48
  | .junja => 49
  | .final => 50
  | .hanja => 51
  | .kanji => 52
  | .convert => 53
  | .select => 54
  | .print => 55
  | .execute => 56
  | .snapshot => 57
  | .insert => 58
  | .help => 59
  | .sleep => 60
  | .separator => 61
  | .scroll => 62
  | .numLock => 63
  | .rWin => 64
  | .apps => 65
  | .multiply => 66
  | .add => 67
  | .subtract => 68
  | .decimal => 69
  | .divide => 70
  | .equals => 71
  | .numpadEnter => 72
  | .rShift => 73
  | .rControl => 74
  | .rAlt => 75
  | .volumeMute => 76
  | .volumeUp => 77
  | .volumeDown => 78
  | .power => 79
  | .ctrlAltDel => 100
  | .lockScreen => 101

inductive Key where
  | alt
  | backspace
  | capsLock
  | control
  | delete
  | downArrow
  | end_
  | escape
  | f1
  | f10
  | f11
  | f12
  | f2
  | f3
  | f4
  | f5
  | f6
  | f7
  | f8
  | f9
  | home
  | leftArrow
  | meta_
  | option
  | pageDown
  | pageUp
  | return
  | rightArrow
  | shift
  | space
  | tab
  | upArrow
  | numpad0
  | numpad1
  | numpad2
  | numpad3
  | numpad4
  | numpad5
  | numpad6
  | numpad7
  | numpad8
  | numpad9
  | cancel
  | clear
  | pause
  | kana
  | hangul
  | junja
  | final
  | hanja
  | kanji
  | convert
  | select
  | print
  | execute
  | snapshot
  | insert
  | help
  | sleep
  | separator
  | scroll
  | numLock
  | rWin
  | apps
  | multiply
  | add
  | subtract
  | decimal
  | divide
  | equals
  | numpadEnter
  | rightAlt
  | rightControl
  | rightShift
  | layout (chr : Char)
  | raw (code : BitVec 16)
  deriving DecidableEq

def keyMap : List (ControlKey × Key) :=
  [
    (.alt, .alt),
    (.backspace, .backspace),
    (.capsLock, .capsLock),
    (.control, .control),
    (.delete, .delete),
    (.downArrow, .downArrow),
    (.end_, .end_),
    (.escape, .escape),
    (.f1, .f1),
    (.f10, .f10),
    (.f11, .f11),
    (.f12, .f12),
    (.f2, .f2),
    (.f3, .f3),
    (.f4, .f4),
    (.f5, .f5),
    (.f6, .f6),
    (.f7, .f7),
    (.f8, .f8),
    (.f9, .f9),
    (.home, .home),
    (.leftArrow, .leftArrow),
    (.meta_, .meta_),
    (.option, .option),
    (.pageDown, .pageDown),
    (.pageUp, .pageUp),
    (.return, .return),
    (.rightArrow, .rightArrow),
    (.shift, .shift),
    (.space, .space),
    (.tab, .tab),
    (.upArrow, .upArrow),
    (.numpad0, .numpad0),
    (.numpad1, .numpad1),
    (.numpad2, .numpad2),
    (.numpad3, .numpad3),
    (.numpad4, .numpad4),
    (.numpad5, .numpad5),
    (.numpad6, .numpad6),
    (.numpad7, .numpad7),
    (.numpad8, .numpad8),
    (.numpad9, .numpad9),
    (.cancel, .cancel),
    (.clear, .clear),
    (.menu, .alt),
    (.pause, .pause),
    (.kana, .kana),
    (.hangul, .hangul),
    (.junja, .junja),
    (.final, .final),
    (.hanja, .hanja),
    (.kanji, .kanji),
    (.convert, .convert),
    (.select, .select),
    (.print, .print),
    (.execute, .execute),
    (.snapshot, .snapshot),
    (.insert, .insert),
    (.help, .help),
    (.sleep, .sleep),
    (.separator, .separator),
    (.scroll, .scroll),
    (.numLock, .numLock),
    (.rWin, .rWin),
    (.apps, .apps),
    (.multiply, .multiply),
    (.add, .add),
    (.subtract, .subtract),
    (.decimal, .decimal),
    (.divide, .divide),
    (.equals, .equals),
    (.numpadEnter, .numpadEnter),
    (.rAlt, .rightAlt),
    (.rControl, .rightControl),
    (.rShift, .rightShift)]

/-- A value that names no key of the table has no key. -/
def controlKeyValueToKey (value : BitVec 32) : Option Key :=
  (keyMap.find? fun entry => entry.1.value = value).map Prod.snd

/-- A value that is no character stands for the character zero. -/
def charValueToKey (value : BitVec 32) : Key := .layout (Char.ofNat value.toNat)

/-- A character that is written with one key of a plain keyboard. -/
def isAsciiPrintable (chr : Char) : Bool := 0x20 ≤ chr.toNat && chr.toNat ≤ 0x7E

end SubnetDesk.InputService
