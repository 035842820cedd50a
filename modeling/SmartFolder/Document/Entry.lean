import SmartFolder.Document.Checked
import SmartFolder.Journal

/-!
# Entry documents

An entry has a level, a message and details of any form.
-/

namespace SmartFolder.Entry

def model : String := "Diagnostic"

def ofMembers (origin : Origin) (ms : Members) : Checked Entry :=
  Checked.make Entry.mk
    |>.apply (ms.optional "level" Level.warning.name Json.checkText)
    |>.apply (ms.required "message" Json.checkText)
    |>.apply (ms.optional "details" [] (Json.checkObject origin))

def check (origin : Origin) : Json → Checked Entry :=
  Json.checkModel origin model (ofMembers origin)

def toJson (e : Entry) : Json :=
  .object [("level", .text e.level), ("message", .text e.message), ("details", .object e.details)]

end SmartFolder.Entry
