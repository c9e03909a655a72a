/-!
The property tags that the client itself uses.
-/

namespace StoreRpc.Tag

def body : UInt32 := 0x1000001F
def displayName : UInt32 := 0x3001001F
def comment : UInt32 := 0x3004001F
def creationTime : UInt32 := 0x30070040
def lastModificationTime : UInt32 := 0x30080040
def folderType : UInt32 := 0x36010003
def containerClass : UInt32 := 0x3613001F
def smtpAddress : UInt32 := 0x39FE001F
def changeKey : UInt32 := 0x65E20102
def predecessorChangeList : UInt32 := 0x65E30102
def memberId : UInt32 := 0x66710014
def memberName : UInt32 := 0x6672001F
def memberRights : UInt32 := 0x66730003
def folderId : UInt32 := 0x67480014
def parentFolderId : UInt32 := 0x67490014
def messageId : UInt32 := 0x674A0014
def changeNumber : UInt32 := 0x67A40014

end StoreRpc.Tag
