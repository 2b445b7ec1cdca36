import GuestMachine.Host.FileSystem
import GuestMachine.Image

/-!
# Image files

Images on the host's file system.
-/

namespace GuestMachine.Image

/-- Reads an image file (`load`, §G). -/
def load (files : FileSystem) (path : String) : Except ImageError Image :=
  match files.readFile path with
  | .error e => .error (.host e.message)
  | .ok bytes => ofBytes bytes

/-- Writes an image file (`save`, §G). An image without any bytes is refused before the host is
asked. -/
def save (e : Image) (files : FileSystem) (path : String) : Except ImageError FileSystem :=
  if e.isEmpty then .error .empty
  else
    match files.writeFile path e.toBytes with
    | .error error => .error (.host error.message)
    | .ok files => .ok files

/-- Reads an image file in place of another image; the image is blank if that fails (`load_into`,
§G). -/
def reload (files : FileSystem) (path : String) : Except ImageError Unit × Image :=
  match load files path with
  | .ok e => (.ok (), e)
  | .error error => (.error error, blank)

end GuestMachine.Image
