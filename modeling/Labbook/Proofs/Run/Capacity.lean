import Labbook.Proofs.Run.LaidOut
import Labbook.Run.RunFile

namespace Labbook

namespace RecordData
variable {dims : List Nat} {data : RecordData}

end RecordData

end Labbook
