import GameBoy.Bus.Access
import GameBoy.Files

/-!
# Loading images

A boot image fills the boot page and is mapped at once. A cartridge image is copied to the lower
half of the map, as far as it reaches, and is kept whole for the bank window. Images come from a
store of named files; a file that cannot be read leaves the bus as it is.
-/

namespace GameBoy

/-- The two kinds of images. -/
inductive ImageKind where
  | boot | cartridge
  deriving DecidableEq, Repr

/-- A failure to open an image. -/
structure OpenError where
  kind : ImageKind
  path : String
  cause : ReadError
  deriving DecidableEq, Repr

/-- The texts of the failure and its cause, the outermost first. -/
def OpenError.chain (e : OpenError) : List String :=
  let what := match e.kind with
    | .boot => "boot ROM"
    | .cartridge => "cartridge"
  [s!"reading {what} {e.path}", e.cause.message]

/-- The failure and its cause in one line. -/
def OpenError.message (e : OpenError) : String := ": ".intercalate e.chain

namespace Bus

/-- Installs a boot image, cut to the first page or filled up with zeros, and maps it. -/
def loadBoot (image : Image) : Action Bus Unit := do
  if image.size > 0x100 then .note (.bootTruncated image.size)
  .modify fun bus => { bus with boot := Store.tabulate 8 fun a => image[a]?.getD 0 }
  enableBoot
  .note (.bootLoaded (min image.size 0x100))

/-- The map with an image copied to its lower half. -/
def overlay (map : Cells 16) (image : Image) : Cells 16 :=
  let size := min image.size romEnd.toNat
  Store.tabulate 16 fun a => if a < size then image[a]?.getD 0 else map.get a

/-- Installs a cartridge image. -/
def loadRom (image : Image) : Action Bus Unit := do
  if image.size > romEnd.toNat then .note .cartridgeLarge
  let header := Header.parse image
  .modify fun bus =>
    { bus with
      map := overlay bus.map image
      cartridge := image
      header := header
      window := { mode := BankMode.ofCartType header.cartType } }
  .note (.cartridgeLoaded header image.size)

/-- Installs an image of either kind. -/
def load (kind : ImageKind) (image : Image) : Action Bus Unit :=
  match kind with
  | .boot => loadBoot image
  | .cartridge => loadRom image

/-- Opens an image by path and installs it. -/
def openImage (files : FileStore) (kind : ImageKind) (path : String) :
    Action Bus (Except OpenError Unit) :=
  match files path with
  | .error cause => pure (.error { kind, path, cause })
  | .ok image => do
    load kind image
    return .ok ()

end Bus

end GameBoy
