namespace RunMonitor.Key

def cronJobs : String := "cronjobs"

def jobs : String := "jobs"

def runIndex : String := "jobs_by_cronjob"

def podsOf (ns job : String) : String := "pods/" ++ ns ++ "/" ++ job

def definition (ns name : String) : String := "cronjob/" ++ ns ++ "/" ++ name

def indexEntry (ns cronJob : String) : String := ns ++ "/" ++ cronJob

def fixed : List String := [cronJobs, jobs, runIndex]

end RunMonitor.Key
