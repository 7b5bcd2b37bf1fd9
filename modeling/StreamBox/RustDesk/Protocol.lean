import StreamBox.RustDesk.BytesCodec

/-!
# RustDesk session messages

The messages of a session as the generated protobuf code hands them over, with
the fields the connection reads. An enumeration field of a message is its wire
value (`EnumOrUnknown::value`), which may be one the enumeration does not name.
-/

namespace StreamBox.RustDesk

/-- `as_bytes` of a string. -/
def asBytes (s : String) : Bytes := s.toByteArray.data.toList

/-! ## Input -/

/-! The wire values of the control keys. -/
namespace ControlKey

def alt : Int := 1
def backspace : Int := 2
def capsLock : Int := 3
def control : Int := 4
def delete : Int := 5
def downArrow : Int := 6
def «end» : Int := 7
def escape : Int := 8
def f1 : Int := 9
def f10 : Int := 10
def f11 : Int := 11
def f12 : Int := 12
def f2 : Int := 13
def f3 : Int := 14
def f4 : Int := 15
def f5 : Int := 16
def f6 : Int := 17
def f7 : Int := 18
def f8 : Int := 19
def f9 : Int := 20
def home : Int := 21
def leftArrow : Int := 22
/-- Also known as "windows", "super" and "command". -/
def «meta» : Int := 23
def pageDown : Int := 25
def pageUp : Int := 26
def «return» : Int := 27
def rightArrow : Int := 28
def shift : Int := 29
def space : Int := 30
def tab : Int := 31
def upArrow : Int := 32
def numpad0 : Int := 33
def numpad1 : Int := 34
def numpad2 : Int := 35
def numpad3 : Int := 36
def numpad4 : Int := 37
def numpad5 : Int := 38
def numpad6 : Int := 39
def numpad7 : Int := 40
def numpad8 : Int := 41
def numpad9 : Int := 42
def pause : Int := 46
def insert : Int := 58
def scroll : Int := 62
def numLock : Int := 63
def multiply : Int := 66
def add : Int := 67
def subtract : Int := 68
def decimal : Int := 69
def divide : Int := 70
def numpadEnter : Int := 72
def rShift : Int := 73
def rControl : Int := 74
def rAlt : Int := 75

end ControlKey

inductive KeyUnion
  | controlKey (value : Int)
  | chr (keycode : UInt32)
  | unicode (codePoint : UInt32)
  | seq (text : String)
  | win2winHotkey (value : UInt32)
  deriving DecidableEq, Repr

structure KeyEvent where
  down : Bool := false
  press : Bool := false
  union : Option KeyUnion := none
  modifiers : List Int := []
  deriving DecidableEq, Repr

structure MouseEvent where
  mask : Int32 := 0
  x : Int32 := 0
  y : Int32 := 0
  deriving DecidableEq, Repr

/-! ## Session control -/

structure PublicKey where
  asymmetricValue : Bytes
  symmetricValue : Bytes
  deriving DecidableEq, Repr

structure LoginRequest where
  myId : String := ""
  myName : String := ""
  password : Bytes := []
  deriving DecidableEq, Repr

structure IdPk where
  id : String
  pk : Bytes
  deriving DecidableEq, Repr

structure SignedId where
  id : Bytes
  deriving DecidableEq, Repr

structure TestDelay where
  time : Int := 0
  fromClient : Bool := false
  lastDelay : Nat := 0
  targetBitrate : Nat := 0
  deriving DecidableEq, Repr

structure OptionMessage where
  /-- Wire value of the image quality: NotSet=0, Low=2, Balanced=3, Best=4. -/
  imageQuality : Int := 0
  /-- Wire value of the preferred codec, when `supported_decoding` is present. -/
  supportedDecodingPrefer : Option Int := none
  customImageQuality : Int := 0
  customFps : Int := 0
  deriving DecidableEq, Repr

inductive Misc
  | switchDisplay (display : Int)
  | option (opt : OptionMessage)
  | refreshVideo (refresh : Bool)
  | videoReceived (received : Bool)
  /-- A kind the connection does not handle, or none. -/
  | other
  deriving DecidableEq, Repr

/-- The union of a session message. -/
inductive Message
  | publicKey (pk : PublicKey)
  | loginRequest (lr : LoginRequest)
  | keyEvent (ke : KeyEvent)
  | mouseEvent (me : MouseEvent)
  | clipboard
  | misc (misc : Misc)
  | testDelay (td : TestDelay)
  | signedId (si : SignedId)
  /-- A kind that is only logged. -/
  | other (typeName : String)
  | empty
  deriving DecidableEq, Repr

end StreamBox.RustDesk
