import RunMonitor.Error
import RunMonitor.Json.Printer

namespace RunMonitor.Http

structure Response where
  status : Nat
  contentType : Option String := none
  body : ByteArray := .empty

def jsonType : String := "application/json"

def yamlType : String := "application/yaml"

def textType : String := "text/plain; charset=utf-8"

def eventStreamType : String := "text/event-stream"

namespace Response

def ofJson (status : Nat) (json : Json) : Response := ⟨status, some jsonType, json.bytes⟩

def ofText (contentType text : String) : Response := ⟨200, some contentType, text.toByteArray⟩

def errorStatus : Error → Nat
  | .notFound _ => 404
  | .cluster _ => 502
  | _ => 500

def ofError (error : Error) : Response :=
  ofJson (errorStatus error) (.obj [("error", .str error.message)])

def noRoute : Response := ⟨404, none, .empty⟩

def noMethod : Response := ⟨405, none, .empty⟩

end Response
end RunMonitor.Http
