import Handheld.Machine.State

namespace Handheld

/-!
# Functions on keys

Keys above 127 stand for all keys.
-/

namespace Machine

/-- Read a key. -/
def readKey (waiting : Bool) : Action Word :=
  askDevice fun device => device.heard (device.keyboard.read waiting)

/-- Whether a word asks for all keys, not for one. -/
def meansAllKeys (key : Word) : Bool :=
  key.bits / 0x80 != 0

/-- Ask whether a key is held, or which is the lowest of those held. -/
def checkKey : Action Unit := do
  let key ← pop
  if meansAllKeys key then
    push (← askDevice fun device => device.heard device.keyboard.lowest)
  else
    pushBool (← askDevice fun device => device.heard (device.keyboard.isHeld key))

/-- Let a held key, or the lowest of those held, be read again. -/
def releaseKey : Action Unit := do
  let key ← pop
  if meansAllKeys key then
    askDevice fun device => device.heard device.keyboard.relatchLowest
  else
    askDevice fun device => device.heard (device.keyboard.relatch key)

end Machine

end Handheld
