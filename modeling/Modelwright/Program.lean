namespace Modelwright

def programName : String := "tortoise-gen"

def programVersion : String := "0.1.0"

end Modelwright
